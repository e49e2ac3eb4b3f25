import Dialogue.Content.Tree
import Dialogue.Json.Tagged
import Dialogue.Profile.Format

/-!
# The format of content

Content as JSON. Conditions and effects are told by their kind; a kind that is not known here is
read as unknown, with whatever operands it has.
-/

namespace Dialogue
open Json

namespace Test

private def named (kind field : String) (make : String → Test) : Kind Test :=
  .one "Condition" kind field readText make

private def above (kind : String) (make : Amount → Test) : Kind Test :=
  .one "Condition" kind "value" readAmount make

private def bond (kind : String) (make : String → Amount → Test) : Kind Test :=
  .two "Condition" kind "companion" readText "value" readAmount make

/-- The kinds of tests, in the order of their positions. -/
def kinds : List (Kind Test) := [
  named "has_story_flag" "flag" .hasFlag,
  named "not_has_story_flag" "flag" .lacksFlag,
  above "alignment_above" .alignmentAbove,
  above "alignment_below" .alignmentBelow,
  above "level_above" .levelAbove,
  above "level_below" .levelBelow,
  named "has_class" "class" .hasClass,
  named "has_race" "race" .hasRace,
  above "gold_above" .goldAbove,
  named "has_artifact" "artifact" .hasArtifact,
  .one "Condition" "chapter_at_least" "chapter" readCount .chapterAtLeast,
  .one "Condition" "cycle_above" "value" readCount .cycleAbove,
  named "has_made_choice" "choice" .madeChoice,
  named "has_companion" "companion" .hasCompanion,
  named "companion_alive" "companion" .companionAlive,
  named "companion_dead" "companion" .companionDead,
  bond "companion_loyalty_above" .loyaltyAbove,
  bond "companion_trust_above" .trustAbove,
  bond "romance_level_above" .romanceAbove,
  .plain "has_active_companion" .anyCompanionActive,
  .plain "is_grieving" .grieving,
  named "grief_stage_is" "stage" .griefStage,
  .plain "completed_grief_cycle" .griefCompleted,
  named "betrayed_by" "npc" .betrayedBy,
  named "forgave_betrayer" "npc" .forgave,
  named "has_pending_betrayal" "npc" .betrayalPending,
  above "awakening_above" .awakeningAbove,
  named "has_wave_fragment" "fragment" .hasFragment,
  .one "Condition" "insight_at_least" "value" readSize .insightsAtLeast,
  named "experienced_moment" "moment" .experienced,
  named "has_memory_fragment" "fragment" .hasMemory,
  above "memory_recovery_above" .memoryAbove,
  .plain "truth_revealed" .truthRevealed,
  above "stranger_receptivity_above" .opennessAbove,
  above "stranger_receptivity_below" .opennessBelow,
  .one "Condition" "stranger_encounters_above" "value" readCount .encountersAbove,
  .plain "stranger_knows_truth" .knowsStranger]

def write : Test → Json
  | .hasFlag flag => writeTagged "has_story_flag" [("flag", .text flag)]
  | .lacksFlag flag => writeTagged "not_has_story_flag" [("flag", .text flag)]
  | .alignmentAbove value => writeTagged "alignment_above" [("value", value.json)]
  | .alignmentBelow value => writeTagged "alignment_below" [("value", value.json)]
  | .levelAbove value => writeTagged "level_above" [("value", value.json)]
  | .levelBelow value => writeTagged "level_below" [("value", value.json)]
  | .hasClass className => writeTagged "has_class" [("class", .text className)]
  | .hasRace race => writeTagged "has_race" [("race", .text race)]
  | .goldAbove value => writeTagged "gold_above" [("value", value.json)]
  | .hasArtifact artifact => writeTagged "has_artifact" [("artifact", .text artifact)]
  | .chapterAtLeast chapter => writeTagged "chapter_at_least" [("chapter", chapter.json)]
  | .cycleAbove value => writeTagged "cycle_above" [("value", value.json)]
  | .madeChoice choice => writeTagged "has_made_choice" [("choice", .text choice)]
  | .hasCompanion companion => writeTagged "has_companion" [("companion", .text companion)]
  | .companionAlive companion => writeTagged "companion_alive" [("companion", .text companion)]
  | .companionDead companion => writeTagged "companion_dead" [("companion", .text companion)]
  | .loyaltyAbove companion value =>
    writeTagged "companion_loyalty_above" [("companion", .text companion), ("value", value.json)]
  | .trustAbove companion value =>
    writeTagged "companion_trust_above" [("companion", .text companion), ("value", value.json)]
  | .romanceAbove companion value =>
    writeTagged "romance_level_above" [("companion", .text companion), ("value", value.json)]
  | .anyCompanionActive => writeTagged "has_active_companion" []
  | .grieving => writeTagged "is_grieving" []
  | .griefStage stage => writeTagged "grief_stage_is" [("stage", .text stage)]
  | .griefCompleted => writeTagged "completed_grief_cycle" []
  | .betrayedBy npc => writeTagged "betrayed_by" [("npc", .text npc)]
  | .forgave npc => writeTagged "forgave_betrayer" [("npc", .text npc)]
  | .betrayalPending npc => writeTagged "has_pending_betrayal" [("npc", .text npc)]
  | .awakeningAbove value => writeTagged "awakening_above" [("value", value.json)]
  | .hasFragment fragment => writeTagged "has_wave_fragment" [("fragment", .text fragment)]
  | .insightsAtLeast value => writeTagged "insight_at_least" [("value", value.json)]
  | .experienced moment => writeTagged "experienced_moment" [("moment", .text moment)]
  | .hasMemory memory => writeTagged "has_memory_fragment" [("fragment", .text memory)]
  | .memoryAbove value => writeTagged "memory_recovery_above" [("value", value.json)]
  | .truthRevealed => writeTagged "truth_revealed" []
  | .opennessAbove value => writeTagged "stranger_receptivity_above" [("value", value.json)]
  | .opennessBelow value => writeTagged "stranger_receptivity_below" [("value", value.json)]
  | .encountersAbove value => writeTagged "stranger_encounters_above" [("value", value.json)]
  | .knowsStranger => writeTagged "stranger_knows_truth" []

end Test

namespace Condition

/-- The kinds of conditions, in the order of their positions, where `inner` reads a condition inside
another. -/
def kinds (inner : Doc → Reading Condition) : List (Kind Condition) :=
  Test.kinds.map (.map .test) ++ [
    .one "Condition" "all" "conditions" (readList inner) .all,
    .one "Condition" "any" "conditions" (readList inner) .any,
    .one "Condition" "not" "condition" inner .not]

/-- Reads a condition with at most `depth` conditions inside one another. -/
def readWithin : (depth : Nat) → (nested : Bool) → Doc → Reading Condition
  | 0, _, _ => .error (.flaw .malformed)
  | depth + 1, nested, d =>
    readTagged "internally tagged enum Condition" nested (kinds (readWithin depth true)) .unknown d

/-- Reads a condition. Each condition inside another is a container of its own, so that the bound on
containers comes first. -/
def read (d : Doc) : Reading Condition := readWithin (maxDepth + 1) false d

mutual

def write : Condition → Json
  | .test t => t.write
  | .all cs => writeTagged "all" [("conditions", .seq (writeList cs))]
  | .any cs => writeTagged "any" [("conditions", .seq (writeList cs))]
  | .not c => writeTagged "not" [("condition", c.write)]
  | .unknown => writeTagged "unknown" []

def writeList : List Condition → List Json
  | [] => []
  | c :: cs => c.write :: writeList cs

end

end Condition

namespace Effect

private def named (kind field : String) (make : String → Effect) : Kind Effect :=
  .one "Effect" kind field readText make

private def amounting (kind : String) (make : Amount → Effect) : Kind Effect :=
  .one "Effect" kind "amount" readAmount make

private def named₂ (kind field : String) (make : String → Amount → Effect) : Kind Effect :=
  .two "Effect" kind field readText "amount" readAmount make

/-- An event may do without its detail. -/
private def eventKind : Kind Effect where
  name := "trigger_event"
  read operands :=
    (fun (s : String × Option String) => triggerEvent s.1 s.2) <$> Format.readOperands
      ⟨variantLabel "Effect" "trigger_event", default, [
        operand "event" readText fun a s => (a, s.2),
        { operand "detail" (readOption readText) (fun a s => (s.1, a)) with required := false }]⟩
      operands

/-- The kinds of effects. -/
def kinds : List (Kind Effect) := [
  named "set_story_flag" "flag" .setFlag,
  named "clear_story_flag" "flag" .clearFlag,
  amounting "add_chivalry" .addChivalry,
  amounting "add_darkness" .addDarkness,
  amounting "add_gold" .addGold,
  amounting "add_experience" .addExperience,
  amounting "heal" .heal,
  amounting "damage" .damage,
  named "give_item" "item" .giveItem,
  .two "Effect" "record_choice" "choice" readText "outcome" readText .recordChoice,
  .one "Effect" "advance_chapter" "chapter" readCount .advanceChapter,
  named "unlock_artifact" "artifact" .unlockArtifact,
  eventKind,
  named₂ "modify_companion_loyalty" "companion" .modifyLoyalty,
  named₂ "modify_companion_trust" "companion" .modifyTrust,
  named "advance_romance" "companion" .advanceRomance,
  named "trigger_companion_death" "companion" .companionDeath,
  named₂ "add_betrayal_points" "npc" .addBetrayal,
  named₂ "reduce_betrayal_points" "npc" .reduceBetrayal,
  named "trigger_betrayal" "npc" .triggerBetrayal,
  amounting "gain_insight" .gainInsight,
  named "collect_wave_fragment" "fragment" .collectFragment,
  named "trigger_awakening_moment" "moment" .awakeningMoment,
  named "reveal_memory" "memory" .revealMemory,
  named "trigger_dream" "dream" .triggerDream]

def read (d : Doc) : Reading Effect :=
  readTagged "internally tagged enum Effect" false kinds .unknown d

def write : Effect → Json
  | .setFlag flag => writeTagged "set_story_flag" [("flag", .text flag)]
  | .clearFlag flag => writeTagged "clear_story_flag" [("flag", .text flag)]
  | .addChivalry amount => writeTagged "add_chivalry" [("amount", amount.json)]
  | .addDarkness amount => writeTagged "add_darkness" [("amount", amount.json)]
  | .addGold amount => writeTagged "add_gold" [("amount", amount.json)]
  | .addExperience amount => writeTagged "add_experience" [("amount", amount.json)]
  | .heal amount => writeTagged "heal" [("amount", amount.json)]
  | .damage amount => writeTagged "damage" [("amount", amount.json)]
  | .giveItem item => writeTagged "give_item" [("item", .text item)]
  | .recordChoice choice outcome =>
    writeTagged "record_choice" [("choice", .text choice), ("outcome", .text outcome)]
  | .advanceChapter chapter => writeTagged "advance_chapter" [("chapter", chapter.json)]
  | .unlockArtifact artifact => writeTagged "unlock_artifact" [("artifact", .text artifact)]
  | .triggerEvent event detail =>
    writeTagged "trigger_event" [("event", .text event), ("detail", ofOption .text detail)]
  | .modifyLoyalty companion amount =>
    writeTagged "modify_companion_loyalty"
      [("companion", .text companion), ("amount", amount.json)]
  | .modifyTrust companion amount =>
    writeTagged "modify_companion_trust" [("companion", .text companion), ("amount", amount.json)]
  | .advanceRomance companion => writeTagged "advance_romance" [("companion", .text companion)]
  | .companionDeath companion =>
    writeTagged "trigger_companion_death" [("companion", .text companion)]
  | .addBetrayal npc amount =>
    writeTagged "add_betrayal_points" [("npc", .text npc), ("amount", amount.json)]
  | .reduceBetrayal npc amount =>
    writeTagged "reduce_betrayal_points" [("npc", .text npc), ("amount", amount.json)]
  | .triggerBetrayal npc => writeTagged "trigger_betrayal" [("npc", .text npc)]
  | .gainInsight amount => writeTagged "gain_insight" [("amount", amount.json)]
  | .collectFragment fragment => writeTagged "collect_wave_fragment" [("fragment", .text fragment)]
  | .awakeningMoment moment => writeTagged "trigger_awakening_moment" [("moment", .text moment)]
  | .revealMemory memory => writeTagged "reveal_memory" [("memory", .text memory)]
  | .triggerDream dream => writeTagged "trigger_dream" [("dream", .text dream)]
  | .unknown => writeTagged "unknown" []

end Effect

/-- The effects of a node or choice. -/
private def effectsJson (l : List Effect) : Json := .seq (l.map Effect.write)

def Choice.format : Format Choice where
  label := "struct DialogueChoice"
  start := ⟨"", "", .neutral, none, [], false⟩
  fields := [
    (Field.of "text" readText .text (·.text) fun a c => { c with text := a }).needed,
    (Field.of "next" readText .text (·.next) fun a c => { c with next := a }).needed,
    .of "tone" Tone.names.read (fun t => .text t.name) (·.tone) fun a c => { c with tone := a },
    (Field.of "condition" (readOption Condition.read) (ofOption Condition.write) (·.condition)
      fun a c => { c with condition := a }).unless (·.condition.isNone),
    (Field.of "effects" (readList Effect.read) effectsJson (·.effects)
      fun a c => { c with effects := a }).unless (·.effects.isEmpty),
    .of "auto_select" readBool .bool (·.autoSelect) fun a c => { c with autoSelect := a }]

def Node.format : Format Node where
  label := "struct DialogueNode"
  start := ⟨"", none, [], none, [], none, false, []⟩
  fields := [
    (Field.of "id" readText .text (·.id) fun a n => { n with id := a }).needed,
    (Field.of "speaker" (readOption readText) (ofOption .text) (·.speaker)
      fun a n => { n with speaker := a }).unless (·.speaker.isNone),
    .of "text" (readList readText) ofTexts (·.lines) fun a n => { n with lines := a },
    (Field.of "text_color" (readOption Color.names.read) (ofOption fun c => .text c.name) (·.color)
      fun a n => { n with color := a }).unless (·.color.isNone),
    (Field.of "choices" (readList Choice.format.read) (fun l => .seq (l.map Choice.format.write))
      (·.choices) fun a n => { n with choices := a }).unless (·.choices.isEmpty),
    (Field.of "next" (readOption readText) (ofOption .text) (·.next)
      fun a n => { n with next := a }).unless (·.next.isNone),
    .of "is_end" readBool .bool (·.isEnd) fun a n => { n with isEnd := a },
    (Field.of "effects" (readList Effect.read) effectsJson (·.effects)
      fun a n => { n with effects := a }).unless (·.effects.isEmpty)]

/-- A tree lists its nodes in the order of their ids. -/
def Tree.format : Format Tree where
  label := "struct TreeRepr"
  start := ⟨"", "", "", {}⟩
  fields := [
    (Field.of "id" readText .text (·.id) fun a t => { t with id := a }).needed,
    .of "name" readText .text (·.name) fun a t => { t with name := a },
    (Field.of "root" readText .text (·.root) fun a t => { t with root := a }).needed,
    .of "nodes" (readList Node.format.read) (fun l => .seq (l.map Node.format.write)) (·.listing)
      Tree.withListing]

namespace Content

def format : Format Content where
  label := "struct ContentFile"
  start := {}
  fields := [
    .of "speakers" (readTable Color.names.read) (Table.json fun c => .text c.name) (·.speakers)
      fun a c => { c with speakers := a },
    .of "trees" (readList Tree.format.read) (fun l => .seq (l.map Tree.format.write)) (·.trees)
      fun a c => { c with trees := a }]

/-- Reads content from its text. -/
def ofText (s : String) : Reading Content := readAll format.read s

end Content

end Dialogue
