import Dialogue.Profile.Bonds
import Dialogue.Profile.Insight
import Dialogue.Profile.Player
import Dialogue.Profile.Story

/-!
# Profiles

A profile: everything about one player's game that conditions read and effects change.
-/

namespace Dialogue

structure Profile where
  player : Player := {}
  story : Story := {}
  companions : Companions := {}
  grief : Grief := {}
  betrayals : Betrayals := {}
  awakening : Awakening := {}
  memory : Memory := {}
  stranger : Stranger := {}
  deriving DecidableEq, Inhabited

end Dialogue
