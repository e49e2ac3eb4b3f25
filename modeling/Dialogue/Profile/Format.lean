import Dialogue.Json.Record
import Dialogue.Profile.Basic

/-!
# The format of profiles

Profiles as JSON. Every section and every field may be missing, which leaves its default, except
the two fields of a story event.
-/

namespace Dialogue
open Json

/-- An integer of a profile. -/
def Ranged.json {lo hi : Int} (a : Ranged lo hi) : Json := .int a.val

def NameSet.json (s : NameSet) : Json := ofTexts s.toList

def Table.json {β : Type} (write : β → Json) (t : Table β) : Json :=
  .map (t.toList.map fun e => (e.1, write e.2))

namespace Profile

def alignmentNames : Vocabulary Alignment where
  names := [("chivalry", .chivalry), ("darkness", .darkness)]

def stageNames : Vocabulary GriefStage where
  names := [("denial", .denial), ("anger", .anger), ("bargaining", .bargaining),
    ("depression", .depression), ("acceptance", .acceptance)]

def playerFormat : Format Player where
  label := "struct Player"
  start := {}
  fields := [
    .of "name" readText .text (·.name) fun a p => { p with name := a },
    .of "real_name" readText .text (·.realName) fun a p => { p with realName := a },
    .of "level" readAmount Ranged.json (·.level) fun a p => { p with level := a },
    .of "class" readText .text (·.className) fun a p => { p with className := a },
    .of "race" readText .text (·.race) fun a p => { p with race := a },
    .of "gold" readAmount Ranged.json (·.gold) fun a p => { p with gold := a },
    .of "experience" readAmount Ranged.json (·.experience) fun a p => { p with experience := a },
    .of "hp" readAmount Ranged.json (·.hp) fun a p => { p with hp := a },
    .of "max_hp" readAmount Ranged.json (·.maxHp) fun a p => { p with maxHp := a },
    .of "chivalry" readAmount Ranged.json (·.chivalry) fun a p => { p with chivalry := a },
    .of "darkness" readAmount Ranged.json (·.darkness) fun a p => { p with darkness := a },
    .of "chivalry_deeds" readCount Ranged.json (·.chivalryDeeds)
      fun a p => { p with chivalryDeeds := a },
    .of "darkness_deeds" readCount Ranged.json (·.darknessDeeds)
      fun a p => { p with darknessDeeds := a },
    .of "inventory" (readList readText) ofTexts (·.inventory) fun a p => { p with inventory := a }]

def eventFormat : Format StoryEvent where
  label := "struct StoryEvent"
  start := {}
  fields := [
    (Field.of "name" readText .text (·.name) fun a e => { e with name := a }).needed,
    (Field.of "detail" readText .text (·.detail) fun a e => { e with detail := a }).needed]

def storyFormat : Format Story where
  label := "struct Story"
  start := {}
  fields := [
    .of "flags" readNameSet NameSet.json (·.flags) fun a s => { s with flags := a },
    .of "choices" (readTable readText) (Table.json .text) (·.choices)
      fun a s => { s with choices := a },
    .of "chapter" readCount Ranged.json (·.chapter) fun a s => { s with chapter := a },
    .of "cycle" readCount Ranged.json (·.cycle) fun a s => { s with cycle := a },
    .of "artifacts" readNameSet NameSet.json (·.artifacts) fun a s => { s with artifacts := a },
    .of "events" (readList eventFormat.read) (fun l => .seq (l.map eventFormat.write)) (·.events)
      fun a s => { s with events := a }]

def companionFormat : Format Companion where
  label := "struct Companion"
  start := {}
  fields := [
    .of "alive" readBool .bool (·.alive) fun a c => { c with alive := a },
    .of "active" readBool .bool (·.active) fun a c => { c with active := a },
    .of "loyalty" readAmount Ranged.json (·.loyalty) fun a c => { c with loyalty := a },
    .of "trust" readAmount Ranged.json (·.trust) fun a c => { c with trust := a },
    .of "romance" readAmount Ranged.json (·.romance) fun a c => { c with romance := a },
    .of "history" (readList readText) ofTexts (·.history) fun a c => { c with history := a }]

def companionsFormat : Format Companions where
  label := "struct Companions"
  start := {}
  fields := [
    .of "roster" (readTable companionFormat.read) (Table.json companionFormat.write) (·.roster)
      fun a c => { c with roster := a }]

def griefFormat : Format Grief where
  label := "struct Grief"
  start := {}
  fields := [
    .of "stage" (readOption stageNames.read) (ofOption fun s => .text (stageNames.nameOf s))
      (·.stage) fun a g => { g with stage := a },
    .of "completed_cycle" readBool .bool (·.completedCycle)
      fun a g => { g with completedCycle := a }]

def betrayalsFormat : Format Betrayals where
  label := "struct Betrayals"
  start := {}
  fields := [
    .of "points" (readTable readAmount) (Table.json Ranged.json) (·.points)
      fun a b => { b with points := a },
    .of "betrayed" readNameSet NameSet.json (·.betrayed) fun a b => { b with betrayed := a },
    .of "log" (readList readText) ofTexts (·.log) fun a b => { b with log := a }]

def awakeningFormat : Format Awakening where
  label := "struct Awakening"
  start := {}
  fields := [
    .of "points" readAmount Ranged.json (·.points) fun a w => { w with points := a },
    .of "insights" (readList readAmount) (fun l => .seq (l.map Ranged.json)) (·.insights)
      fun a w => { w with insights := a },
    .of "fragments" readNameSet NameSet.json (·.fragments) fun a w => { w with fragments := a },
    .of "moments" readNameSet NameSet.json (·.moments) fun a w => { w with moments := a }]

def memoryFormat : Format Memory where
  label := "struct Memory"
  start := {}
  fields := [
    .of "recovered" readNameSet NameSet.json (·.recovered) fun a m => { m with recovered := a },
    .of "total" readSize Ranged.json (·.total) fun a m => { m with total := a }]

def strangerFormat : Format Stranger where
  label := "struct Stranger"
  start := {}
  fields := [
    .of "receptivity" readAmount Ranged.json (·.receptivity) fun a s => { s with receptivity := a },
    .of "encounters" readCount Ranged.json (·.encounters) fun a s => { s with encounters := a },
    .of "knows_truth" readBool .bool (·.knowsTruth) fun a s => { s with knowsTruth := a }]

def format : Format Profile where
  label := "struct InMemoryState"
  start := {}
  fields := [
    .of "player" playerFormat.read playerFormat.write (·.player) fun a p => { p with player := a },
    .of "story" storyFormat.read storyFormat.write (·.story) fun a p => { p with story := a },
    .of "companions" companionsFormat.read companionsFormat.write (·.companions)
      fun a p => { p with companions := a },
    .of "grief" griefFormat.read griefFormat.write (·.grief) fun a p => { p with grief := a },
    .of "betrayals" betrayalsFormat.read betrayalsFormat.write (·.betrayals)
      fun a p => { p with betrayals := a },
    .of "awakening" awakeningFormat.read awakeningFormat.write (·.awakening)
      fun a p => { p with awakening := a },
    .of "memory" memoryFormat.read memoryFormat.write (·.memory) fun a p => { p with memory := a },
    .of "stranger" strangerFormat.read strangerFormat.write (·.stranger)
      fun a p => { p with stranger := a }]

/-- Reads a profile from its text. -/
def ofText (s : String) : Reading Profile := readAll format.read s

/-- The text of a profile. -/
def toText (p : Profile) : String := (format.write p).toText

end Profile

end Dialogue
