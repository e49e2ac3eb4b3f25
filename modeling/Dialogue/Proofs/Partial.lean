import Dialogue.Proofs.Json.Editing
import Dialogue.Proofs.Profile

/-!
# Profiles written in part

A profile may be written by hand, or by a game that knows more or fewer members. What may be done to
its document is listed here section by section, with the default of each member (`editing`): a
member that is missing is at its default, one that is not known is passed over, and the order does
not matter. Every document edited so is read as the profile that it stands for
(`read_edited`).
-/

namespace Dialogue.Profile
open Json

/-! ## The parts of a profile and their defaults -/

def playerParts : List Part := [
  .plain "name" (.text "Wanderer"),
  .plain "real_name" (.text "Wanderer"),
  .plain "level" (.int 1),
  .plain "class" (.text "Warrior"),
  .plain "race" (.text "Human"),
  .plain "gold" (.int 0),
  .plain "experience" (.int 0),
  .plain "hp" (.int 100),
  .plain "max_hp" (.int 100),
  .plain "chivalry" (.int 0),
  .plain "darkness" (.int 0),
  .plain "chivalry_deeds" (.int 0),
  .plain "darkness_deeds" (.int 0),
  .plain "inventory" (.seq [])]

/-- A story event needs both its members. -/
def eventParts : List Part := [⟨"name", none, .plain⟩, ⟨"detail", none, .plain⟩]

def storyParts : List Part := [
  .plain "flags" (.seq []),
  .table "choices" .plain,
  .plain "chapter" (.int 0),
  .plain "cycle" (.int 0),
  .plain "artifacts" (.seq []),
  ⟨"events", some (.seq []), .list (.record eventParts)⟩]

def companionParts : List Part := [
  .plain "alive" (.bool true),
  .plain "active" (.bool true),
  .plain "loyalty" (.int 50),
  .plain "trust" (.int 50),
  .plain "romance" (.int 0),
  .plain "history" (.seq [])]

def companionsParts : List Part := [.table "roster" (.record companionParts)]

def griefParts : List Part := [
  .plain "stage" .null,
  .plain "completed_cycle" (.bool false)]

def betrayalsParts : List Part := [
  .table "points" .plain,
  .plain "betrayed" (.seq []),
  .plain "log" (.seq [])]

def awakeningParts : List Part := [
  .plain "points" (.int 0),
  .plain "insights" (.seq []),
  .plain "fragments" (.seq []),
  .plain "moments" (.seq [])]

def memoryParts : List Part := [
  .plain "recovered" (.seq []),
  .plain "total" (.int 10)]

def strangerParts : List Part := [
  .plain "receptivity" (.int 0),
  .plain "encounters" (.int 0),
  .plain "knows_truth" (.bool false)]

def parts : List Part := [
  .record "player" playerParts,
  .record "story" storyParts,
  .record "companions" companionsParts,
  .record "grief" griefParts,
  .record "betrayals" betrayalsParts,
  .record "awakening" awakeningParts,
  .record "memory" memoryParts,
  .record "stranger" strangerParts]

/-- What may be done to the document of a profile. -/
def editing : Editing := .record parts

/-! ## Each section is read so -/

theorem player_suits :
    (Editing.record playerParts).Suits playerFormat.read playerFormat.write := by
  refine Format.suits ?_ (.of_pairwise (by decide) (by simp [playerFormat, Field.Apart.of]))
  exact .cons (.of (.plain .text) (fun _ _ => rfl) rfl) <|
    .cons (.of (.plain .text) (fun _ _ => rfl) rfl) <|
    .cons (.of (.plain .amount) (fun _ _ => rfl) rfl) <|
    .cons (.of (.plain .text) (fun _ _ => rfl) rfl) <|
    .cons (.of (.plain .text) (fun _ _ => rfl) rfl) <|
    .cons (.of (.plain .amount) (fun _ _ => rfl) rfl) <|
    .cons (.of (.plain .amount) (fun _ _ => rfl) rfl) <|
    .cons (.of (.plain .amount) (fun _ _ => rfl) rfl) <|
    .cons (.of (.plain .amount) (fun _ _ => rfl) rfl) <|
    .cons (.of (.plain .amount) (fun _ _ => rfl) rfl) <|
    .cons (.of (.plain .amount) (fun _ _ => rfl) rfl) <|
    .cons (.of (.plain .count) (fun _ _ => rfl) rfl) <|
    .cons (.of (.plain .count) (fun _ _ => rfl) rfl) <|
    .cons (.of (.plain .texts) (fun _ _ => rfl) rfl) .nil

theorem event_suits : (Editing.record eventParts).Suits eventFormat.read eventFormat.write := by
  refine Format.suits ?_ (.of_pairwise (by decide) (by simp [eventFormat, Field.Apart.of]))
  exact .cons (.needed (.of (.plain .text) (fun _ _ => rfl) rfl)) <|
    .cons (.needed (.of (.plain .text) (fun _ _ => rfl) rfl)) .nil

theorem story_suits :
    (Editing.record storyParts).Suits storyFormat.read storyFormat.write := by
  refine Format.suits ?_ (.of_pairwise (by decide) (by simp [storyFormat, Field.Apart.of]))
  exact .cons (.of (.plain .nameSet) (fun _ _ => rfl) rfl) <|
    .cons (.of (.table (.plain .text)) (fun _ _ => rfl) rfl) <|
    .cons (.of (.plain .count) (fun _ _ => rfl) rfl) <|
    .cons (.of (.plain .count) (fun _ _ => rfl) rfl) <|
    .cons (.of (.plain .nameSet) (fun _ _ => rfl) rfl) <|
    .cons (.of (.list event_suits) (fun _ _ => rfl) rfl) .nil

theorem companion_suits :
    (Editing.record companionParts).Suits companionFormat.read companionFormat.write := by
  refine Format.suits ?_ (.of_pairwise (by decide) (by simp [companionFormat, Field.Apart.of]))
  exact .cons (.of (.plain .bool) (fun _ _ => rfl) rfl) <|
    .cons (.of (.plain .bool) (fun _ _ => rfl) rfl) <|
    .cons (.of (.plain .amount) (fun _ _ => rfl) rfl) <|
    .cons (.of (.plain .amount) (fun _ _ => rfl) rfl) <|
    .cons (.of (.plain .amount) (fun _ _ => rfl) rfl) <|
    .cons (.of (.plain .texts) (fun _ _ => rfl) rfl) .nil

theorem companions_suits :
    (Editing.record companionsParts).Suits companionsFormat.read companionsFormat.write := by
  refine Format.suits ?_ (.of_pairwise (by decide) (by simp [companionsFormat]))
  exact .cons (.of (.table companion_suits) (fun _ _ => rfl) rfl) .nil

theorem stage_conveys (o : Option GriefStage) :
    Conveys (readOption stageNames.read) (ofOption (fun s => .text (stageNames.nameOf s)) o) o :=
  .option fun s _ => ⟨.vocabulary (meaning_nameOf_stage s), text_ne_null _⟩

theorem grief_suits :
    (Editing.record griefParts).Suits griefFormat.read griefFormat.write := by
  refine Format.suits ?_ (.of_pairwise (by decide) (by simp [griefFormat, Field.Apart.of]))
  exact .cons (.of (.plain stage_conveys) (fun _ _ => rfl) rfl) <|
    .cons (.of (.plain .bool) (fun _ _ => rfl) rfl) .nil

theorem betrayals_suits :
    (Editing.record betrayalsParts).Suits betrayalsFormat.read betrayalsFormat.write := by
  refine Format.suits ?_ (.of_pairwise (by decide) (by simp [betrayalsFormat, Field.Apart.of]))
  exact .cons (.of (.table (.plain .amount)) (fun _ _ => rfl) rfl) <|
    .cons (.of (.plain .nameSet) (fun _ _ => rfl) rfl) <|
    .cons (.of (.plain .texts) (fun _ _ => rfl) rfl) .nil

theorem awakening_suits :
    (Editing.record awakeningParts).Suits awakeningFormat.read awakeningFormat.write := by
  refine Format.suits ?_ (.of_pairwise (by decide) (by simp [awakeningFormat, Field.Apart.of]))
  exact .cons (.of (.plain .amount) (fun _ _ => rfl) rfl) <|
    .cons (.of (.plain fun l => .list fun a _ => .amount a) (fun _ _ => rfl) rfl) <|
    .cons (.of (.plain .nameSet) (fun _ _ => rfl) rfl) <|
    .cons (.of (.plain .nameSet) (fun _ _ => rfl) rfl) .nil

theorem memory_suits :
    (Editing.record memoryParts).Suits memoryFormat.read memoryFormat.write := by
  refine Format.suits ?_ (.of_pairwise (by decide) (by simp [memoryFormat, Field.Apart.of]))
  exact .cons (.of (.plain .nameSet) (fun _ _ => rfl) rfl) <|
    .cons (.of (.plain .size) (fun _ _ => rfl) rfl) .nil

theorem stranger_suits :
    (Editing.record strangerParts).Suits strangerFormat.read strangerFormat.write := by
  refine Format.suits ?_ (.of_pairwise (by decide) (by simp [strangerFormat, Field.Apart.of]))
  exact .cons (.of (.plain .amount) (fun _ _ => rfl) rfl) <|
    .cons (.of (.plain .count) (fun _ _ => rfl) rfl) <|
    .cons (.of (.plain .bool) (fun _ _ => rfl) rfl) .nil

theorem suits : editing.Suits format.read format.write := by
  refine Format.suits ?_ (.of_pairwise (by decide) (by simp [format, Field.Apart.of]))
  exact .cons (.of player_suits (fun _ _ => rfl) rfl) <|
    .cons (.of story_suits (fun _ _ => rfl) rfl) <|
    .cons (.of companions_suits (fun _ _ => rfl) rfl) <|
    .cons (.of grief_suits (fun _ _ => rfl) rfl) <|
    .cons (.of betrayals_suits (fun _ _ => rfl) rfl) <|
    .cons (.of awakening_suits (fun _ _ => rfl) rfl) <|
    .cons (.of memory_suits (fun _ _ => rfl) rfl) <|
    .cons (.of stranger_suits (fun _ _ => rfl) rfl) .nil

theorem eq_of_write_eq {p q : Profile} (h : format.write p = format.write q) : p = q := by
  have htext : p.toText = q.toText := congrArg Json.toText h
  have hread := ofText_toText p
  rw [htext, ofText_toText q] at hread
  exact (Except.ok.inj hread).symm

/-- **Partial profiles mean defaults.** What is written of a profile is a document of it, in which
nothing is edited. Whichever members are left out of the sections and companions, whatever else
stands between them and in whichever order, the document is read, as the one profile in which what
was left out is at its default and all else is as it was written. -/
theorem read_edited :
    (∀ p : Profile, editing ⟨format.write p, (scan p.toText).1, format.write p⟩) ∧
    ∀ (p : Profile) (d : Doc) (w : Json), editing ⟨format.write p, d, w⟩ →
      ∃ q, format.read d = .ok q ∧ format.write q = w ∧ (∀ q', format.write q' = w → q' = q) ∧
        ∀ s rest, scan s = (d, some rest) → (skipSpaces rest).isEmpty → ofText s = .ok q := by
  refine ⟨fun p => ?_, fun p d w h => ?_⟩
  · have hfit : Fitting 0 (format.write p) := by
      have hdepth := depth_le p
      show 0 + _ ≤ 127
      omega
    rw [toText, scan_toText (conveys p).sound]
    exact suits.unedited p hfit
  · obtain ⟨q, hread, rfl⟩ := suits.reads h rfl
    exact ⟨q, hread, rfl, fun _ => eq_of_write_eq,
      fun s rest hscan hrest => readAll_eq_ok_iff.2 ⟨d, rest, hscan, hrest, hread⟩⟩

/-- The profile of someone who has remembered one of twelve things. -/
def waking : Profile := { memory := Memory.reveal { total := 12 } "the fire" }

/-- What is left of that profile in a game with moods and visions that does not count memories. -/
def wakingInPart : Json := .map [
  ("mood", .seq [.int 1, .map []]),
  ("memory", .map [("vision", .null), ("recovered", .seq [.text "the fire"]), ("vision", .int 2)])]

/-- The value under a name. -/
def memberOf : Json → String → Json
  | .map members, name => (members.lookup name).getD .null
  | _, _ => .null

/-- What has been remembered is kept, of ten things again. -/
theorem read_edited_waking :
    ofText wakingInPart.toText = .ok { memory := Memory.reveal {} "the fire" } := by
  have hmemory : (Editing.record memoryParts) ⟨memoryFormat.write waking.memory,
      .map [(.text "vision", .null), (.text "recovered", .seq [.text "the fire"] none),
        (.text "vision", .number (.int 2))] none,
      memoryFormat.write (Memory.reveal {} "the fire")⟩ := by
    refine ⟨memberOf (memoryFormat.write waking.memory),
      memberOf (memoryFormat.write (Memory.reveal {} "the fire")), _, ⟨?_, ?_, ?_⟩, rfl⟩
    · have hkept : Editing.plain ⟨.seq [.text "the fire"], .seq [.text "the fire"] none,
          .seq [.text "the fire"]⟩ := ⟨rfl, 0, Nat.le_of_ble_eq_true rfl, rfl⟩
      simp only [List.forall_mem_cons]
      exact ⟨⟨_, rfl, .inr ⟨by decide, rfl⟩⟩,
        ⟨_, rfl, .inl ⟨.plain "recovered" (.seq []), List.mem_cons_self, rfl, hkept⟩⟩,
        ⟨_, rfl, .inr ⟨by decide, rfl⟩⟩, List.forall_mem_nil _⟩
    · simp [memoryParts, Part.plain]
    · simp only [memoryParts, List.forall_mem_cons]
      exact ⟨fun h => absurd (by decide) h, fun _ => rfl, List.forall_mem_nil _⟩
  have hedited : editing ⟨format.write waking, wakingInPart.doc,
      format.write { memory := Memory.reveal {} "the fire" }⟩ := by
    refine ⟨memberOf (format.write waking),
      memberOf (format.write { memory := Memory.reveal {} "the fire" }), _, ⟨?_, ?_, ?_⟩, rfl⟩
    · simp only [memberDocs, List.forall_mem_cons]
      exact ⟨⟨_, rfl, .inr ⟨by decide, rfl⟩⟩,
        ⟨_, rfl, .inl ⟨.record "memory" memoryParts, by simp [parts], rfl, hmemory⟩⟩,
        List.forall_mem_nil _⟩
    · simp [memberDocs, parts, Part.record]
    · simp only [parts, List.forall_mem_cons]
      exact ⟨fun _ => rfl, fun _ => rfl, fun _ => rfl, fun _ => rfl, fun _ => rfl, fun _ => rfl,
        fun h => absurd (by decide) h, fun _ => rfl, List.forall_mem_nil _⟩
  have hsound : wakingInPart.Sound := by
    have hone : (Json.int 1).Sound := .int ⟨by decide, by decide⟩
    have htwo : (Json.int 2).Sound := .int ⟨by decide, by decide⟩
    have hmood : (Json.seq [.int 1, .map []]).Sound := .seq (by simp [hone, Sound.map])
    have hrecovered : (Json.seq [.text "the fire"]).Sound := .seq (by simp [Sound.text])
    exact .map (by simp [hmood, Sound.map, Sound.null, hrecovered, htwo])
  obtain ⟨q, -, -, hunique, htext⟩ := read_edited.2 waking _ _ hedited
  rw [hunique _ rfl]
  exact htext _ _ (scan_toText hsound) rfl

end Dialogue.Profile
