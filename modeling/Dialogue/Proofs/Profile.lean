import Dialogue.Proofs.Files
import Dialogue.Proofs.Json.Reading

/-!
# Profiles survive being saved

Every section of a profile is read back from what is written of it, so that the text of a profile
tells that profile and no other (`Profile.round_trip`). A profile nests five containers at most,
which is far below the bound on what can be read.
-/

namespace Dialogue
open Json

namespace Json.Conveys

theorem amount (a : Amount) : Conveys readAmount a.json a :=
  ranged "i64" (by decide) (by decide) a

theorem count (a : Count) : Conveys readCount a.json a :=
  ranged "u32" (by decide) (by decide) a

theorem size (a : Size) : Conveys readSize a.json a :=
  ranged "usize" (by decide) (by decide) a

theorem entries {α : Type} {read : Doc → Reading α} {write : α → Json} {t : Table α}
    (h : ∀ e ∈ t.toList, Conveys read (write e.2) e.2) :
    Conveys (readTable read) (t.json write) t :=
  table h

end Json.Conveys

theorem Table.depth_json_le {α : Type} {write : α → Json} {t : Table α} {n : Nat}
    (h : ∀ e ∈ t.toList, (write e.2).depth ≤ n) : (t.json write).depth ≤ n + 1 :=
  depth_map_le.2 fun m hm => by
    obtain ⟨e, he, rfl⟩ := List.mem_map.1 hm
    exact h e he

namespace Profile

theorem player_conveys (p : Player) : Conveys playerFormat.read (playerFormat.write p) p := by
  refine Format.Restores.conveys ?_ (by decide)
  exact .cons (.of (.text _)) <| .cons (.of (.text _)) <| .cons (.of (.amount _)) <|
    .cons (.of (.text _)) <| .cons (.of (.text _)) <| .cons (.of (.amount _)) <|
    .cons (.of (.amount _)) <| .cons (.of (.amount _)) <|
    .cons (.of (.amount _)) <| .cons (.of (.amount _)) <|
    .cons (.of (.amount _)) <| .cons (.of (.count _)) <|
    .cons (.of (.count _)) <| .cons (.of (.texts _)) .nil

theorem event_conveys (e : StoryEvent) : Conveys eventFormat.read (eventFormat.write e) e := by
  refine Format.Restores.conveys ?_ (by decide)
  exact .cons (.needed (.of (.text _)) rfl) <| .cons (.needed (.of (.text _)) rfl) .nil

theorem story_conveys (s : Story) : Conveys storyFormat.read (storyFormat.write s) s := by
  refine Format.Restores.conveys ?_ (by decide)
  exact .cons (.of (.nameSet _)) <| .cons (.of (.entries fun e _ => .text e.2)) <|
    .cons (.of (.count _)) <| .cons (.of (.count _)) <| .cons (.of (.nameSet _)) <|
    .cons (.of (.list fun e _ => event_conveys e)) .nil

theorem companion_conveys (c : Companion) :
    Conveys companionFormat.read (companionFormat.write c) c := by
  refine Format.Restores.conveys ?_ (by decide)
  exact .cons (.of (.bool _)) <| .cons (.of (.bool _)) <| .cons (.of (.amount _)) <|
    .cons (.of (.amount _)) <| .cons (.of (.amount _)) <| .cons (.of (.texts _)) .nil

theorem companions_conveys (c : Companions) :
    Conveys companionsFormat.read (companionsFormat.write c) c := by
  refine Format.Restores.conveys ?_ (by decide)
  exact .cons (.of (.entries fun e _ => companion_conveys e.2)) .nil

theorem meaning_nameOf_stage (s : GriefStage) :
    stageNames.meaning (stageNames.nameOf s) = .ok s := by
  cases s <;> rfl

theorem grief_conveys (g : Grief) : Conveys griefFormat.read (griefFormat.write g) g := by
  refine Format.Restores.conveys ?_ (by decide)
  exact .cons (.of (.option fun s _ => ⟨.vocabulary (meaning_nameOf_stage s), text_ne_null _⟩)) <|
    .cons (.of (.bool _)) .nil

theorem betrayals_conveys (b : Betrayals) :
    Conveys betrayalsFormat.read (betrayalsFormat.write b) b := by
  refine Format.Restores.conveys ?_ (by decide)
  exact .cons (.of (.entries fun e _ => .amount e.2)) <| .cons (.of (.nameSet _)) <|
    .cons (.of (.texts _)) .nil

theorem awakening_conveys (w : Awakening) :
    Conveys awakeningFormat.read (awakeningFormat.write w) w := by
  refine Format.Restores.conveys ?_ (by decide)
  exact .cons (.of (.amount _)) <| .cons (.of (.list fun a _ => .amount a)) <|
    .cons (.of (.nameSet _)) <| .cons (.of (.nameSet _)) .nil

theorem memory_conveys (m : Memory) : Conveys memoryFormat.read (memoryFormat.write m) m := by
  refine Format.Restores.conveys ?_ (by decide)
  exact .cons (.of (.nameSet _)) <| .cons (.of (.size _)) .nil

theorem stranger_conveys (s : Stranger) :
    Conveys strangerFormat.read (strangerFormat.write s) s := by
  refine Format.Restores.conveys ?_ (by decide)
  exact .cons (.of (.amount _)) <| .cons (.of (.count _)) <| .cons (.of (.bool _)) .nil

theorem conveys (p : Profile) : Conveys format.read (format.write p) p := by
  refine Format.Restores.conveys ?_ (by decide)
  exact .cons (.of (player_conveys _)) <| .cons (.of (story_conveys _)) <|
    .cons (.of (companions_conveys _)) <| .cons (.of (grief_conveys _)) <|
    .cons (.of (betrayals_conveys _)) <| .cons (.of (awakening_conveys _)) <|
    .cons (.of (memory_conveys _)) <| .cons (.of (stranger_conveys _)) .nil

/-! ## How deep profiles are -/

theorem depth_player_le (p : Player) : (playerFormat.write p).depth ≤ 2 := by
  refine Format.depth_write_le ?_
  simp [playerFormat, Field.of, Ranged.json, depth_texts_le]

theorem depth_event_le (e : StoryEvent) : (eventFormat.write e).depth ≤ 1 := by
  refine Format.depth_write_le ?_
  simp [eventFormat, Field.of, Field.needed]

theorem depth_story_le (s : Story) : (storyFormat.write s).depth ≤ 3 := by
  have hchoices : (Table.json .text s.choices).depth ≤ 2 :=
    Table.depth_json_le fun _ _ => Nat.zero_le 1
  have hevents : (Json.seq (s.events.map eventFormat.write)).depth ≤ 2 :=
    depth_list_le fun e _ => depth_event_le e
  refine Format.depth_write_le ?_
  simp [storyFormat, Field.of, Ranged.json, NameSet.json, hchoices, hevents,
    Nat.le_succ_of_le (depth_texts_le _)]

theorem depth_companion_le (c : Companion) : (companionFormat.write c).depth ≤ 2 := by
  refine Format.depth_write_le ?_
  simp [companionFormat, Field.of, Ranged.json, depth_texts_le]

theorem depth_companions_le (c : Companions) : (companionsFormat.write c).depth ≤ 4 := by
  have hroster : (Table.json companionFormat.write c.roster).depth ≤ 3 :=
    Table.depth_json_le fun e _ => depth_companion_le e.2
  refine Format.depth_write_le ?_
  simp [companionsFormat, Field.of, hroster]

theorem depth_grief_le (g : Grief) : (griefFormat.write g).depth ≤ 1 := by
  have hstage : (ofOption (fun s => .text (stageNames.nameOf s)) g.stage).depth = 0 := by
    cases g.stage <;> rfl
  refine Format.depth_write_le ?_
  simp [griefFormat, Field.of, hstage]

theorem depth_betrayals_le (b : Betrayals) : (betrayalsFormat.write b).depth ≤ 2 := by
  have hpoints : (Table.json Ranged.json b.points).depth ≤ 1 :=
    Table.depth_json_le fun _ _ => Nat.le_refl 0
  refine Format.depth_write_le ?_
  simp [betrayalsFormat, Field.of, NameSet.json, hpoints, depth_texts_le]

theorem depth_awakening_le (w : Awakening) : (awakeningFormat.write w).depth ≤ 2 := by
  have hinsights : (Json.seq (w.insights.map Ranged.json)).depth ≤ 1 :=
    depth_list_le fun _ _ => Nat.le_refl 0
  refine Format.depth_write_le ?_
  simp [awakeningFormat, Field.of, Ranged.json, NameSet.json, hinsights, depth_texts_le]

theorem depth_memory_le (m : Memory) : (memoryFormat.write m).depth ≤ 2 := by
  refine Format.depth_write_le ?_
  simp [memoryFormat, Field.of, Ranged.json, NameSet.json, depth_texts_le]

theorem depth_stranger_le (s : Stranger) : (strangerFormat.write s).depth ≤ 1 := by
  refine Format.depth_write_le ?_
  simp [strangerFormat, Field.of, Ranged.json]

/-- A roster, its companions and their histories stand below the profile and its companions. -/
theorem depth_le (p : Profile) : (format.write p).depth ≤ 5 := by
  have := depth_player_le p.player
  have := depth_story_le p.story
  have := depth_companions_le p.companions
  have := depth_grief_le p.grief
  have := depth_betrayals_le p.betrayals
  have := depth_awakening_le p.awakening
  have := depth_memory_le p.memory
  have := depth_stranger_le p.stranger
  refine Format.depth_write_le ?_
  simp only [format, Field.of, List.forall_mem_cons, Option.mem_some_iff, forall_eq']
  refine ⟨?_, ?_, ?_, ?_, ?_, ?_, ?_, ?_, List.forall_mem_nil _⟩
  all_goals omega

/-! ## Profiles and their files -/

theorem ofText_toText (p : Profile) : ofText p.toText = .ok p :=
  (conveys p).readAll (Nat.le_trans (depth_le p) (by decide))

theorem loadProfile_of_read {disk : Disk} {path : String} {p : Profile}
    (h : disk.read path = .ok p.toText.toUTF8) : disk.loadProfile path = .ok p := by
  rw [Disk.loadProfile_of_read h, ofText_toText]
  rfl

theorem read_of_saveProfile {files files' : Snapshot} {path : String} {p : Profile}
    (hin : files.Inside path) (h : files.saveProfile path p = .ok files') :
    files'.disk.read path = .ok p.toText.toUTF8 := by
  refine Snapshot.read_write ?_ hin
  rw [Snapshot.saveProfile] at h
  cases hwrite : files.write path p.toText with
  | error _ =>
    rw [hwrite] at h
    cases h
  | ok _ =>
    rw [hwrite] at h
    cases h
    rfl

/-- The text of a profile is read as that profile, whatever stands in it, so that different profiles
have different texts. A file that holds the text of a profile is loaded as that profile, and saving
leaves such a file wherever files are kept. -/
theorem round_trip :
    (∀ p : Profile, ofText p.toText = .ok p) ∧
    (∀ p q : Profile, p.toText = q.toText → p = q) ∧
    (∀ (disk : Disk) (path : String) (p : Profile),
      disk.read path = .ok p.toText.toUTF8 → disk.loadProfile path = .ok p) ∧
    (∀ (files files' : Snapshot) (path : String) (p : Profile),
      files.Inside path → files.saveProfile path p = .ok files' →
        files'.disk.loadProfile path = .ok p) := by
  refine ⟨ofText_toText, ?_, fun _ _ _ => loadProfile_of_read, ?_⟩
  · intro p q h
    have hp := ofText_toText p
    rw [h, ofText_toText q] at hp
    exact (Except.ok.inj hp).symm
  · intro files files' path p hin hsave
    exact loadProfile_of_read (read_of_saveProfile hin hsave)

/-- A new player's profile, saved in an empty directory and loaded from there. -/
theorem round_trip_new :
    ∃ files : Snapshot, (⟨"/game", {}⟩ : Snapshot).saveProfile "save.json" {} = .ok files ∧
      files.disk.loadProfile "save.json" = .ok {} := by
  have hin : (⟨"/game", {}⟩ : Snapshot).Inside "save.json" :=
    ⟨.home [], "save.json", [], by decide, rfl⟩
  have hwrite : ∀ text, (⟨"/game", {}⟩ : Snapshot).write "save.json" text =
      .ok (Snapshot.withFile ⟨"/game", {}⟩ (.home ["save.json"]) text.toUTF8) := fun _ => rfl
  have hsave := congrArg (Except.mapError (ProfileError.inaccessible "save.json"))
    (hwrite (toText {}))
  exact ⟨_, hsave, round_trip.2.2.2 _ _ _ _ hin hsave⟩

end Profile

end Dialogue
