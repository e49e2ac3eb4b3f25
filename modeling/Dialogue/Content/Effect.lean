import Dialogue.Content.Color
import Dialogue.Profile.Basic

/-!
# Effects

Effects on a profile, and the lines that tell the player of them. Effects of a kind that is not
known here do nothing.
-/

namespace Dialogue

inductive Effect where
  | setFlag (flag : String)
  | clearFlag (flag : String)
  | addChivalry (amount : Amount)
  | addDarkness (amount : Amount)
  | addGold (amount : Amount)
  | addExperience (amount : Amount)
  | heal (amount : Amount)
  | damage (amount : Amount)
  | giveItem (item : String)
  | recordChoice (choice outcome : String)
  | advanceChapter (chapter : Count)
  | unlockArtifact (artifact : String)
  | triggerEvent (event : String) (detail : Option String)
  | modifyLoyalty (companion : String) (amount : Amount)
  | modifyTrust (companion : String) (amount : Amount)
  | advanceRomance (companion : String)
  | companionDeath (companion : String)
  | addBetrayal (npc : String) (amount : Amount)
  | reduceBetrayal (npc : String) (amount : Amount)
  | triggerBetrayal (npc : String)
  | gainInsight (amount : Amount)
  | collectFragment (fragment : String)
  | awakeningMoment (moment : String)
  | revealMemory (memory : String)
  | triggerDream (dream : String)
  /-- A kind of effect that is not known here. -/
  | unknown
  deriving DecidableEq, Inhabited

/-- A line that tells of an effect. -/
structure Notice where
  text : String
  color : Color
  deriving DecidableEq

/-- The flag of a betrayal that has been set off. -/
def betrayalFlag (npc : String) : String := "betrayal_triggered_" ++ npc

/-- The flag of a dream that is to come. -/
def dreamFlag (dream : String) : String := "dream_pending_" ++ dream

namespace Effect

/-- The profile after the effect. -/
def apply (p : Profile) : Effect → Profile
  | .setFlag flag => { p with story := p.story.setFlag flag }
  | .clearFlag flag => { p with story := p.story.clearFlag flag }
  | .addChivalry amount =>
    { p with player := (p.player.adjustAlignment amount .chivalry).recordDeed .chivalry }
  | .addDarkness amount =>
    { p with player := (p.player.adjustAlignment amount .darkness).recordDeed .darkness }
  | .addGold amount => { p with player := p.player.adjustGold amount }
  | .addExperience amount => { p with player := p.player.adjustExperience amount }
  | .heal amount => { p with player := p.player.adjustHp amount }
  | .damage amount => { p with player := p.player.adjustHp amount.opposite }
  | .giveItem item => { p with player := p.player.give item }
  | .recordChoice choice outcome => { p with story := p.story.recordChoice choice outcome }
  | .advanceChapter chapter => { p with story := p.story.advanceChapter chapter }
  | .unlockArtifact artifact => { p with story := p.story.collectArtifact artifact }
  | .triggerEvent event detail => { p with story := p.story.addEvent event (detail.getD "") }
  | .modifyLoyalty companion amount =>
    { p with
      companions := p.companions.modify companion (·.adjustLoyalty amount "dialogue choice") }
  | .modifyTrust companion amount =>
    { p with companions := p.companions.modify companion (·.adjustTrust amount) }
  | .advanceRomance companion =>
    { p with companions := p.companions.modify companion (·.deepenRomance) }
  | .companionDeath companion => { p with companions := p.companions.modify companion (·.die) }
  | .addBetrayal npc amount =>
    { p with betrayals := p.betrayals.add npc amount "dialogue interaction" }
  | .reduceBetrayal npc amount =>
    { p with betrayals := p.betrayals.reduce npc amount "act of kindness" }
  | .triggerBetrayal npc => { p with story := p.story.setFlag (betrayalFlag npc) }
  | .gainInsight amount => { p with awakening := p.awakening.gainInsight amount }
  | .collectFragment fragment => { p with awakening := p.awakening.collectFragment fragment }
  | .awakeningMoment moment => { p with awakening := p.awakening.experience moment }
  | .revealMemory memory => { p with memory := p.memory.reveal memory }
  | .triggerDream dream => { p with story := p.story.setFlag (dreamFlag dream) }
  | .unknown => p

/-- The word for a change of a companion's feelings. -/
def direction (amount : Amount) : String := if 0 < amount then "increased" else "decreased"

/-- The line that tells of the effect on a profile, if the player is to know. Nothing is said of
companions who were never recruited. -/
def notice (p : Profile) : Effect → Option Notice
  | .addChivalry amount => some ⟨"(+" ++ toString amount ++ " Chivalry)", .brightGreen⟩
  | .addDarkness amount => some ⟨"(+" ++ toString amount ++ " Darkness)", .darkRed⟩
  | .addGold amount =>
    if 0 < amount then some ⟨"(Received " ++ toString amount ++ " gold)", .yellow⟩
    else some ⟨"(Lost " ++ toString amount.val.natAbs ++ " gold)", .red⟩
  | .addExperience amount => some ⟨"(+" ++ toString amount ++ " Experience)", .cyan⟩
  | .heal amount => some ⟨"(Healed " ++ toString amount ++ " HP)", .green⟩
  | .damage amount => some ⟨"(Took " ++ toString amount ++ " damage)", .red⟩
  | .giveItem item => some ⟨"(Received: " ++ item ++ ")", .brightYellow⟩
  | .modifyLoyalty companion amount =>
    if p.companions.isRecruited companion then
      some ⟨"(" ++ companion ++ "'s loyalty " ++ direction amount ++ ")", .cyan⟩
    else none
  | .modifyTrust companion amount =>
    if p.companions.isRecruited companion then
      some ⟨"(" ++ companion ++ "'s trust " ++ direction amount ++ ")", .cyan⟩
    else none
  | .advanceRomance companion =>
    if p.companions.isRecruited companion then
      some ⟨"(Your relationship with " ++ companion ++ " deepens)", .magenta⟩
    else none
  | .gainInsight _ => some ⟨"(A deeper understanding settles within you)", .brightCyan⟩
  | .collectFragment _ => some ⟨"(You have collected a Wave Fragment)", .cyan⟩
  | .awakeningMoment _ => some ⟨"(Something profound shifts in your understanding)", .brightCyan⟩
  | .revealMemory _ => some ⟨"(A memory surfaces from the depths...)", .cyan⟩
  | _ => none

/-- The profile after all effects of a list. -/
def applyAll (p : Profile) (effects : List Effect) : Profile := effects.foldl apply p

/-- The lines that tell of all effects of a list, each of the profile that it meets. -/
def notices (p : Profile) : List Effect → List Notice
  | [] => []
  | e :: es => (e.notice p).toList ++ notices (e.apply p) es

end Effect

end Dialogue
