import Dialogue.Profile.Basic
import Dialogue.Text.Lowercase

/-!
# Conditions

Conditions on a profile. A condition is a test, or several conditions taken together. Conditions of
a kind that is not known here hold always, so that content made for a richer vocabulary still
shows its choices. On lists, `allHold_eq` and `anyHolds_eq` lead back to `List.all` and `List.any`.
-/

namespace Dialogue

/-- A single question to a profile. What is above or below a threshold differs from it. -/
inductive Test where
  | hasFlag (flag : String)
  | lacksFlag (flag : String)
  | alignmentAbove (value : Amount)
  | alignmentBelow (value : Amount)
  | levelAbove (value : Amount)
  | levelBelow (value : Amount)
  | hasClass (className : String)
  | hasRace (race : String)
  | goldAbove (value : Amount)
  | hasArtifact (artifact : String)
  | chapterAtLeast (chapter : Count)
  | cycleAbove (value : Count)
  | madeChoice (choice : String)
  | hasCompanion (companion : String)
  | companionAlive (companion : String)
  | companionDead (companion : String)
  | loyaltyAbove (companion : String) (value : Amount)
  | trustAbove (companion : String) (value : Amount)
  | romanceAbove (companion : String) (value : Amount)
  | anyCompanionActive
  | grieving
  | griefStage (stage : String)
  | griefCompleted
  | betrayedBy (npc : String)
  | forgave (npc : String)
  | betrayalPending (npc : String)
  | awakeningAbove (value : Amount)
  | hasFragment (fragment : String)
  | insightsAtLeast (value : Size)
  | experienced (moment : String)
  | hasMemory (memory : String)
  | memoryAbove (value : Amount)
  | truthRevealed
  | opennessAbove (value : Amount)
  | opennessBelow (value : Amount)
  | encountersAbove (value : Count)
  | knowsStranger
  deriving DecidableEq

/-- The flag of having forgiven a betrayer. -/
def forgivenFlag (npc : String) : String := "forgave_" ++ npc

/-- Whether a profile passes the test. -/
def Test.passes (p : Profile) : Test → Bool
  | .hasFlag flag => p.story.hasFlag flag
  | .lacksFlag flag => !p.story.hasFlag flag
  | .alignmentAbove value => value < p.player.netAlignment
  | .alignmentBelow value => p.player.netAlignment < value
  | .levelAbove value => value < p.player.level
  | .levelBelow value => p.player.level < value
  | .hasClass className => Text.sameLetters p.player.className className
  | .hasRace race => Text.sameLetters p.player.race race
  | .goldAbove value => value < p.player.gold
  | .hasArtifact artifact => p.story.hasArtifact artifact
  | .chapterAtLeast chapter => chapter ≤ p.story.chapter
  | .cycleAbove value => value < p.story.cycle
  | .madeChoice choice => p.story.hasMadeChoice choice
  | .hasCompanion companion => p.companions.isRecruited companion
  | .companionAlive companion => p.companions.isAlive companion
  | .companionDead companion =>
    p.companions.isRecruited companion && !p.companions.isAlive companion
  | .loyaltyAbove companion value => (p.companions.get? companion).any (value < ·.loyalty)
  | .trustAbove companion value => (p.companions.get? companion).any (value < ·.trust)
  | .romanceAbove companion value => (p.companions.get? companion).any (value < ·.romance)
  | .anyCompanionActive => p.companions.anyActive
  | .grieving => p.grief.stage.isSome
  | .griefStage stage => p.grief.stage.any fun s => Text.sameLetters s.title stage
  | .griefCompleted => p.grief.completedCycle
  | .betrayedBy npc => p.betrayals.hasBetrayed npc
  | .forgave npc => p.story.hasFlag (forgivenFlag npc)
  | .betrayalPending npc => p.betrayals.isPending npc
  | .awakeningAbove value => value < p.awakening.level
  | .hasFragment fragment => p.awakening.fragments.contains fragment
  | .insightsAtLeast value => value.val ≤ p.awakening.insights.length
  | .experienced moment => p.awakening.moments.contains moment
  | .hasMemory memory => p.memory.recovered.contains memory
  | .memoryAbove value => value < p.memory.recoveryPercent
  | .truthRevealed => p.memory.truthRevealed
  | .opennessAbove value => value < p.stranger.openness
  | .opennessBelow value => p.stranger.openness < value
  | .encountersAbove value => value < p.stranger.encounters
  | .knowsStranger => p.stranger.knowsTruth

inductive Condition where
  | test (t : Test)
  | all (conditions : List Condition)
  | any (conditions : List Condition)
  | not (condition : Condition)
  /-- A kind of condition that is not known here. -/
  | unknown
  deriving Inhabited

namespace Condition

mutual

/-- Whether the condition holds of a profile. -/
def holds (p : Profile) : Condition → Bool
  | .test t => t.passes p
  | .all cs => allHold p cs
  | .any cs => anyHolds p cs
  | .not c => !c.holds p
  | .unknown => true

def allHold (p : Profile) : List Condition → Bool
  | [] => true
  | c :: cs => c.holds p && allHold p cs

def anyHolds (p : Profile) : List Condition → Bool
  | [] => false
  | c :: cs => c.holds p || anyHolds p cs

end

@[simp] theorem allHold_eq (p : Profile) (cs : List Condition) :
    allHold p cs = cs.all (·.holds p) := by
  induction cs with
  | nil => rfl
  | cons c cs ih => simp [allHold, ih]

@[simp] theorem anyHolds_eq (p : Profile) (cs : List Condition) :
    anyHolds p cs = cs.any (·.holds p) := by
  induction cs with
  | nil => rfl
  | cons c cs ih => simp [anyHolds, ih]

end Condition

/-- Whether a gate is open: one without a condition always is. -/
def gateOpen (p : Profile) (gate : Option Condition) : Bool :=
  match gate with
  | none => true
  | some c => c.holds p

end Dialogue
