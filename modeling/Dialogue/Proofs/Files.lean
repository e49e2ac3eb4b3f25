import Dialogue.Files.Load
import Dialogue.Proofs.Except
import Dialogue.Proofs.Sorted

/-!
# What is written to a file is read from it

A snapshot in which a file has been written gives the bytes of that file under the same path
(`Snapshot.read_write`), as long as the path stays within the working directory. Directories stay
directories (`Snapshot.directory_withFile`), so that the path is walked as before.
-/

namespace Dialogue

/-- Where one part of a path leads from a directory. -/
def Place.step (place : Place) (part : String) : Place :=
  if part = "" ∨ part = "." then place
  else if part = ".." then place.parent
  else place.child part

namespace Snapshot

/-- The path names something in a directory that is within the working directory, where alone a
snapshot keeps what is written. This leaves out no file of a disk, since the working directory may
be the root. -/
def Inside (files : Snapshot) (path : String) : Prop :=
  ∃ place rest names, files.start? path = some (place, rest) ∧
    files.walk place (parts rest).dropLast = .ok (.home names)

/-- The path leads to what has a name in a directory within the working directory. -/
def Names (files : Snapshot) (path : String) (names : List String) (name : String) : Prop :=
  ∃ place rest, files.start? path = some (place, rest) ∧
    files.walk place (parts rest).dropLast = .ok (.home names) ∧
    (parts rest).getLast? = some name

/-- The snapshot with one more file. -/
def withFile (files : Snapshot) (place : Place) (bytes : ByteArray) : Snapshot :=
  { files with entries := files.entries.set (pathOf place.names) (.file bytes) }

variable {files : Snapshot}

/-! ## Walks -/

theorem walk_cons {p : Place} {part : String} {ps : List String}
    (h : files.entry? p = some .directory) :
    files.walk p (part :: ps) = files.walk (p.step part) ps := by
  rw [walk, h, Place.step]
  dsimp only
  split
  · rfl
  · split <;> rfl

/-- Walks lead through directories alone. -/
theorem directory_of_walk {p q : Place} {part : String} {ps : List String}
    (h : files.walk p (part :: ps) = .ok q) :
    files.entry? p = some .directory ∧ files.walk (p.step part) ps = .ok q := by
  cases hp : files.entry? p with
  | none =>
    rw [walk, hp] at h
    cases h
  | some e =>
    cases e with
    | file bytes =>
      rw [walk, hp] at h
      cases h
    | directory => exact ⟨rfl, walk_cons hp ▸ h⟩

theorem walk_append {p : Place} {ps rest : List String} {q : Place}
    (h : files.walk p ps = .ok q) : files.walk p (ps ++ rest) = files.walk q rest := by
  induction ps generalizing p with
  | nil =>
    cases h
    rfl
  | cons part ps ih =>
    obtain ⟨hp, hrest⟩ := directory_of_walk h
    rw [List.cons_append, walk_cons hp]
    exact ih hrest

/-! ## Writing -/

/-- Without what stands for nothing at their end, the parts are as many as before or fewer. -/
theorem eq_of_length_le {ps : List String} {p : String → Bool}
    (h : ¬(ps.reverse.dropWhile p).reverse.length < ps.length) :
    (ps.reverse.dropWhile p).reverse = ps := by
  have hsuffix : (ps.reverse.dropWhile p) <:+ ps.reverse := List.dropWhile_suffix p
  have hlength : ps.reverse.length ≤ (ps.reverse.dropWhile p).length := by simpa using h
  rw [hsuffix.eq_of_length_le hlength, List.reverse_reverse]

/-- How a file is written: a directory that is there takes a name that no directory has in it. -/
theorem exists_of_write {files' : Snapshot} {path text : String}
    (h : files.write path text = .ok files') :
    ∃ place rest directory name, files.start? path = some (place, rest) ∧
      files.walk place (parts rest).dropLast = .ok directory ∧
      (parts rest).getLast? = some name ∧ name ≠ "" ∧ name ≠ "." ∧ name ≠ ".." ∧
      files.entry? directory = some .directory ∧
      files.entry? (directory.child name) ≠ some .directory ∧
      ∀ names, directory = .home names →
        files' = files.withFile (.home (names ++ [name])) text.toUTF8 := by
  unfold write at h
  split at h
  · cases h
  · next place rest hstart =>
    obtain ⟨directory, hwalk, h⟩ := exists_of_bind_ok h
    dsimp only at h
    split at h
    · cases h
    · cases h
    · next heq =>
      split at h
      · cases h
      · next hname =>
        simp only [not_or] at hname
        obtain ⟨hempty, hdot, hdots, hlen⟩ := hname
        rw [eq_of_length_le hlen] at hwalk hempty hdot hdots h
        have hlast : (parts rest).getLast? = some ((parts rest).getLastD "") := by
          cases hps : (parts rest).getLast? with
          | none => simp [List.getLastD_eq_getLast?, hps] at hempty
          | some name => rw [List.getLastD_eq_getLast?, hps, Option.getD_some]
        refine ⟨place, rest, directory, _, hstart, hwalk, hlast, hempty, hdot, hdots, heq, ?_⟩
        split at h
        · cases h
        · next hchild hnew =>
          refine ⟨hnew, fun names hnames => ?_⟩
          rw [hnames] at hchild
          cases hchild
        · next hchild hnew =>
          refine ⟨hnew, fun names hnames => ?_⟩
          rw [hnames] at hchild
          cases hchild
          cases h
          rfl

/-! ## The snapshot with one more file -/

section
variable {bytes : ByteArray}

theorem found_home {names : List String} (hne : names ≠ []) :
    files.entry? (.home names) =
      match files.entries.get? (pathOf names) with
      | some e => some e
      | none =>
        if files.entries.keys.any fun k => (dropStart? (pathOf names ++ "/") k).isSome then
          some .directory
        else none := by
  simp only [Place.names, entry?, List.isEmpty_iff, hne, if_false]
  rfl

/-- The new file is found where it was put. -/
theorem found_withFile {names : List String} (hne : names ≠ []) :
    Snapshot.entry? (files.withFile (.home names) bytes) (.home names) = some (.file bytes) := by
  rw [found_home hne]
  simp only [withFile, Place.names, Table.get?_set, if_true]

/-- A file that does not stand in the place of a directory leaves all directories there. -/
theorem directory_withFile {names : List String} {q : Place} (hne : names ≠ [])
    (hnew : files.entry? (.home names) ≠ some .directory)
    (hq : files.entry? q = some .directory) :
    Snapshot.entry? (files.withFile (.home names) bytes) q = some .directory := by
  cases q with
  | root qs => exact hq
  | home qs =>
    by_cases hqs : qs = []
    · rw [hqs]
      rfl
    · rw [found_home hqs] at hq ⊢
      have hpath : pathOf names ≠ pathOf qs := by
        intro heq
        rw [found_home hne, heq] at hnew
        exact hnew hq
      have hget : (files.withFile (.home names) bytes).entries.get? (pathOf qs) =
          files.entries.get? (pathOf qs) := (Table.get?_set ..).trans (if_neg hpath)
      rw [hget]
      cases hold : files.entries.get? (pathOf qs) with
      | some e => simpa only [hold] using hq
      | none =>
        simp only [hold] at hq ⊢
        have hany : files.entries.keys.any
            fun k => (dropStart? (pathOf qs ++ "/") k).isSome := by
          cases hc : files.entries.keys.any
              fun k => (dropStart? (pathOf qs ++ "/") k).isSome with
          | true => rfl
          | false => simp [hc] at hq
        obtain ⟨k, hk, hbelow⟩ := List.any_eq_true.1 hany
        exact if_pos (List.any_eq_true.2 ⟨k, Table.mem_keys_set hk _ _, hbelow⟩)

/-- A walk through directories goes as before. -/
theorem walk_withFile {names ps : List String} {p q : Place} (hne : names ≠ [])
    (hnew : files.entry? (.home names) ≠ some .directory) (hwalk : files.walk p ps = .ok q) :
    (files.withFile (.home names) bytes).walk p ps = .ok q := by
  induction ps generalizing p with
  | nil => exact hwalk
  | cons part ps ih =>
    obtain ⟨hp, hrest⟩ := directory_of_walk hwalk
    rw [walk_cons (directory_withFile hne hnew hp)]
    exact ih hrest

end

/-- A new file is read under every path that names it. -/
theorem read_withFile {names : List String} {name path : String} {bytes : ByteArray}
    (hdirectory : files.entry? (.home names) = some .directory)
    (hnew : files.entry? (.home (names ++ [name])) ≠ some .directory)
    (hname : name ≠ "" ∧ name ≠ "." ∧ name ≠ "..") (named : files.Names path names name) :
    (files.withFile (.home (names ++ [name])) bytes).read path = .ok bytes := by
  obtain ⟨place, rest, hstart, hwalk, hlast⟩ := named
  obtain ⟨hempty, hdot, hdots⟩ := hname
  have hne : names ++ [name] ≠ [] := by simp
  have hstart : (files.withFile (.home (names ++ [name])) bytes).start? path =
      some (place, rest) := hstart
  have hparts : parts rest = (parts rest).dropLast ++ [name] := by
    obtain ⟨ps, hps⟩ := List.getLast?_eq_some_iff.1 hlast
    rw [hps, List.dropLast_concat]
  have hstep : (Place.home names).step name = .home (names ++ [name]) := by
    rw [Place.step, if_neg (not_or.2 ⟨hempty, hdot⟩), if_neg hdots, Place.child]
  have hwalk : (files.withFile (.home (names ++ [name])) bytes).walk place (parts rest) =
      .ok (.home (names ++ [name])) := by
    rw [hparts, walk_append (walk_withFile hne hnew hwalk),
      walk_cons (directory_withFile hne hnew hdirectory), hstep, walk]
  simp only [read, locate, hstart, hwalk, bind, Except.bind, found_withFile hne]
  rfl

/-- What is written within the working directory is read under the same path. -/
theorem read_write {files' : Snapshot} {path text : String}
    (h : files.write path text = .ok files') (hin : files.Inside path) :
    files'.read path = .ok text.toUTF8 := by
  obtain ⟨place, rest, names, hstart, hwalk⟩ := hin
  obtain ⟨place', rest', directory, name, hstart', hwalk', hlast, hempty, hdot, hdots, hdir, hnew,
    hfiles⟩ := exists_of_write h
  cases hstart.symm.trans hstart'
  cases hwalk.symm.trans hwalk'
  rw [hfiles names rfl]
  exact read_withFile hdir hnew ⟨hempty, hdot, hdots⟩ ⟨place, rest, hstart, hwalk, hlast⟩

end Snapshot

namespace Disk
variable {disk : Disk} {path text : String}

theorem readText_of_read (h : disk.read path = .ok text.toUTF8) :
    disk.readText path = .ok text := by
  have hdecode : String.fromUTF8? text.toUTF8 = some text := dif_pos text.isValidUTF8
  simp only [readText, h, bind, Except.bind, hdecode]
  rfl

theorem loadProfile_of_read (h : disk.read path = .ok text.toUTF8) :
    disk.loadProfile path = (Profile.ofText text).mapError .invalid := by
  rw [loadProfile, readText_of_read h]
  rfl

end Disk

end Dialogue
