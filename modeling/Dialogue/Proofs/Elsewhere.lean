import Dialogue.Proofs.Directory
import Dialogue.Proofs.Paths

/-!
# What a file that is written leaves as it is

A file that is written in one directory changes nothing that is found in others: not what is there
under a path (`locate_withFile`), nor what is listed (`children_withFile`), nor the content that is
loaded from another directory (`loadDirectory_withFile`). The directory of the new file was there
before, so that no directory on the way to it is new either.
-/

namespace Dialogue

namespace Snapshot
variable {files : Snapshot} {names qs : List String} {name path directory rest : String}
  {bytes : ByteArray} {p q place : Place} {e : Entry}

/-! ## What is found at a place -/

/-- A file can be put under a name into a directory. -/
structure Slot (files : Snapshot) (names : List String) (name : String) : Prop where
  directory : files.entry? (.home names) = some .directory
  free : files.entry? (.home (names ++ [name])) ≠ some .directory
  isName : IsName name
  slashless : Slashless names

theorem Slot.slashless_concat (slot : files.Slot names name) : Slashless (names ++ [name]) :=
  List.forall_mem_append.2 ⟨slot.slashless, List.forall_mem_singleton.2 slot.isName.slashless⟩

/-- In a directory that is there something is found, or it is there for itself. -/
theorem exists_key_of_directory (hne : names ≠ [])
    (h : files.entry? (.home names) = some .directory) :
    ∃ k ∈ files.entries.keys, ∃ m, k ++ "/" = stem names ++ m := by
  rw [found_home hne] at h
  cases hget : files.entries.get? (pathOf names) with
  | some e =>
    exact ⟨pathOf names, Table.mem_keys_iff.2 (by rw [hget]; rfl), "", by simp [stem_of_ne hne]⟩
  | none =>
    rw [hget] at h
    dsimp only at h
    split at h
    · next hany =>
      obtain ⟨k, hk, hbelow⟩ := List.any_eq_true.1 hany
      obtain ⟨rest, rfl⟩ := isSome_dropStart?.1 hbelow
      exact ⟨_, hk, rest ++ "/", by rw [stem_of_ne hne, String.append_assoc]⟩
    · cases h

/-- Above a directory that is there, something is found below. -/
theorem exists_key_above (hqs : qs ≠ []) (h : files.entry? (.home names) = some .directory)
    {m : String} (above : stem names = stem qs ++ m) :
    pathOf qs ∈ files.entries.keys ∨ ∃ k ∈ files.entries.keys, ∃ rest, k = stem qs ++ rest := by
  have hne : names ≠ [] := by
    rintro rfl
    exact stem_ne_empty hqs (String.append_eq_empty_iff.1 above.symm).1
  obtain ⟨k, hk, m', hkey⟩ := exists_key_of_directory hne h
  rw [above, String.append_assoc] at hkey
  rcases append_slash hkey with ⟨-, hstem⟩ | ⟨rest, -, rfl⟩
  · rw [stem_of_ne hqs] at hstem
    exact .inl ((String.append_left_inj "/").1 hstem ▸ hk)
  · exact .inr ⟨_, hk, rest, rfl⟩

/-- What is found at other places does not change. -/
theorem Slot.entry?_withFile (slot : files.Slot names name)
    (hne : pathOf qs ≠ pathOf (names ++ [name])) :
    Snapshot.entry? (files.withFile (.home (names ++ [name])) bytes) (.home qs) =
      files.entry? (.home qs) := by
  by_cases hqs : qs = []
  · subst hqs
    rfl
  · have hget : (files.withFile (.home (names ++ [name])) bytes).entries.get? (pathOf qs) =
        files.entries.get? (pathOf qs) := (Table.get?_set ..).trans (if_neg hne.symm)
    rw [found_home hqs, found_home hqs, hget]
    cases hold : files.entries.get? (pathOf qs) with
    | some e => rfl
    | none =>
      -- a directory above the new file has had something in it before
      have hany : ((files.withFile (.home (names ++ [name])) bytes).entries.keys.any
            fun k => (dropStart? (pathOf qs ++ "/") k).isSome) =
          files.entries.keys.any fun k => (dropStart? (pathOf qs ++ "/") k).isSome := by
        rw [Bool.eq_iff_iff, List.any_eq_true, List.any_eq_true]
        constructor
        · rintro ⟨k, hk, hbelow⟩
          rcases Sorted.mem_keys_insert.1 hk with rfl | hk
          · obtain ⟨rest, hrest⟩ := isSome_dropStart?.1 hbelow
            rw [← stem_of_ne hqs] at hrest ⊢
            obtain ⟨m, above, -⟩ := append_of_slashed (stem_slashed qs) slot.isName.slashless
              ((pathOf_concat names name).symm.trans hrest)
            rcases exists_key_above hqs slot.directory above with hin | ⟨k, hk, rest, rfl⟩
            · simp [Table.mem_keys_iff, hold] at hin
            · exact ⟨_, hk, isSome_dropStart?.2 ⟨rest, rfl⟩⟩
          · exact ⟨k, hk, hbelow⟩
        · rintro ⟨k, hk, hbelow⟩
          exact ⟨k, Table.mem_keys_set hk _ _, hbelow⟩
      rw [hany]

/-! ## What is in a directory -/

/-- The names below a place, of which some entries have the paths. -/
def namesBelow (entries : Table Entry) (qs : List String) : NameSet :=
  Sorted.ofList ((entries.keys.filterMap (dropStart? (stem qs))).map
    fun path => (parts path).headD "")

theorem children_eq (files : Snapshot) (q : Place) :
    files.children q = (namesBelow (files.entriesAt q) q.names).toList.filterMap
      fun name => (files.entry? (q.child name)).map (name, ·) := rfl

theorem mem_namesBelow {entries : Table Entry} {n : String} :
    n ∈ (namesBelow entries qs).toList ↔
      ∃ rest, stem qs ++ rest ∈ entries.keys ∧ (parts rest).headD "" = n := by
  rw [namesBelow, NameSet.mem_ofList]
  simp only [List.mem_map, List.mem_filterMap, dropStart?_eq_some]
  constructor
  · rintro ⟨rest, ⟨_, hk, rfl⟩, hn⟩
    exact ⟨rest, hk, hn⟩
  · rintro ⟨rest, hk, hn⟩
    exact ⟨rest, ⟨_, hk, rfl⟩, hn⟩

theorem slashless_of_mem_namesBelow {entries : Table Entry} {n : String}
    (h : n ∈ (namesBelow entries qs).toList) : '/' ∉ n.toList := by
  obtain ⟨rest, -, rfl⟩ := mem_namesBelow.1 h
  exact slashless_parts rest _ (headD_mem_parts rest)

theorem mem_children {n : String} (h : (n, e) ∈ files.children q) :
    n ∈ (namesBelow (files.entriesAt q) q.names).toList ∧ files.entry? (q.child n) = some e := by
  rw [children_eq] at h
  obtain ⟨n', hmem, hn⟩ := List.mem_filterMap.1 h
  obtain ⟨e', he, hpair⟩ := Option.map_eq_some_iff.1 hn
  cases hpair
  exact ⟨hmem, he⟩

/-- Outside of the working directory there is no content. -/
theorem not_isContentName_of_mem_children_root {n : String}
    (h : (n, e) ∈ files.children (.root qs)) : isContentName n = false := by
  obtain ⟨rest, hk, rfl⟩ := mem_namesBelow.1 (mem_children h).1
  -- there is no `j` in any path there
  by_contra hcontent
  rw [Bool.not_eq_false, isContentName, Bool.and_eq_true, List.isSuffixOf_iff_suffix] at hcontent
  have hj : 'j' ∈ rest.toList :=
    mem_of_mem_parts (headD_mem_parts rest) (hcontent.2.subset (by decide))
  have hkeys : ∀ k ∈ outside.keys, 'j' ∉ k.toList := by decide
  exact hkeys _ hk (by simp [hj])

theorem Slot.namesBelow_withFile (slot : files.Slot names name) (bytes : ByteArray)
    (hne : stem qs ≠ stem names) :
    namesBelow (files.withFile (.home (names ++ [name])) bytes).entries qs =
      namesBelow files.entries qs := by
  refine Sorted.ext_mem fun n => ?_
  rw [mem_namesBelow, mem_namesBelow]
  constructor
  · rintro ⟨rest, hk, hn⟩
    rcases Sorted.mem_keys_insert.1 hk with hnew | hk
    · obtain ⟨m, above, rfl⟩ := append_of_slashed (stem_slashed qs) slot.isName.slashless
        ((pathOf_concat names name).symm.trans hnew)
      -- the first name on the way to the new file is on the way to something else as well
      have hnames : names ≠ [] := by
        rintro rfl
        exact hne (String.append_eq_empty_iff.1 above.symm).1
      obtain ⟨k, hk, m', hkey⟩ := exists_key_of_directory hnames slot.directory
      rcases append_slash ((stem_of_ne hnames).symm.trans above) with ⟨rfl, -⟩ | ⟨u, rfl, -⟩
      · exact (hne (above.trans String.append_empty).symm).elim
      · rw [above, String.append_assoc] at hkey
        rcases append_slash hkey with ⟨hempty, -⟩ | ⟨rest, hrest, rfl⟩
        · simp at hempty
        · refine ⟨rest, hk, ?_⟩
          rw [← hn, headD_parts_append, ← headD_parts_append u m', hrest,
            ← String.append_empty (s := rest ++ "/"), headD_parts_append]
    · exact ⟨rest, hk, hn⟩
  · rintro ⟨rest, hk, hn⟩
    exact ⟨rest, Table.mem_keys_set hk _ _, hn⟩

/-- Another directory has the same in it as before. -/
theorem Slot.children_withFile (slot : files.Slot names name) (bytes : ByteArray)
    (hq : q ≠ .home names) (hslashless : Slashless q.names) :
    (files.withFile (.home (names ++ [name])) bytes).children q = files.children q := by
  cases q with
  | root qs => rfl
  | home qs =>
    have hne : stem qs ≠ stem names := fun h =>
      hq (congrArg Place.home (stem_inj hslashless slot.slashless h))
    have hnames := slot.namesBelow_withFile bytes hne
    rw [children_eq, children_eq]
    simp only [entriesAt, Place.names, Place.child] at hnames ⊢
    rw [hnames]
    refine List.filterMap_congr fun n hn => ?_
    rw [slot.entry?_withFile]
    rw [pathOf_concat, pathOf_concat]
    exact fun h =>
      hne (stem_append_inj (slashless_of_mem_namesBelow hn) slot.isName.slashless h).1

/-! ## What paths lead to -/

theorem slashless_of_locate (h : files.locate path = .ok (q, e)) : Slashless q.names := by
  obtain ⟨place, rest, hstart, hwalk, -⟩ := locate_eq_ok.1 h
  refine slashless_of_walk hwalk (slashless_parts rest) ?_
  rcases start?_cases hstart with rfl | rfl <;> exact List.forall_mem_nil _

theorem Slot.locate_withFile (slot : files.Slot names name)
    (h : files.locate path = .ok (q, e)) (hq : q ≠ .home (names ++ [name])) :
    (files.withFile (.home (names ++ [name])) bytes).locate path = .ok (q, e) := by
  have hslashless := slashless_of_locate h
  obtain ⟨place, rest, hstart, hwalk, hentry⟩ := locate_eq_ok.1 h
  refine locate_eq_ok.2 ⟨place, rest, hstart, walk_withFile (by simp) slot.free hwalk, ?_⟩
  cases q with
  | root qs => exact hentry
  | home qs =>
    by_cases hqs : qs = []
    · subst hqs
      exact hentry
    · rw [slot.entry?_withFile, hentry]
      exact fun heq => hq (congrArg Place.home
        (pathOf_inj hslashless slot.slashless_concat hqs (by simp) heq))

theorem Slot.ne_of_locate (slot : files.Slot names name)
    (h : files.locate path = .ok (q, .directory)) : q ≠ .home (names ++ [name]) := by
  rintro rfl
  obtain ⟨place, rest, -, -, hentry⟩ := locate_eq_ok.1 h
  exact slot.free hentry

theorem list_eq_ok {found : List (String × Bool)} : files.list path = .ok found ↔
    ∃ q, files.locate path = .ok (q, .directory) ∧
      (files.children q).map (fun e => (e.1, Entry.isFile e.2)) = found := by
  rw [list, bind_eq_ok_iff]
  constructor
  · rintro ⟨⟨q, e⟩, hlocate, h⟩
    cases e with
    | file bytes => cases h
    | directory => exact ⟨q, hlocate, Except.ok.inj h⟩
  · rintro ⟨q, hlocate, rfl⟩
    exact ⟨_, hlocate, rfl⟩

theorem read_eq_ok : files.read path = .ok bytes ↔
    ∃ q, files.locate path = .ok (q, .file bytes) := by
  rw [read, bind_eq_ok_iff]
  constructor
  · rintro ⟨⟨q, e⟩, hlocate, h⟩
    cases e with
    | file bytes' =>
      cases h
      exact ⟨q, hlocate⟩
    | directory => cases h
  · rintro ⟨q, hlocate⟩
    exact ⟨_, hlocate, rfl⟩

theorem isName_of_mem_children {n : String} (h : (n, e) ∈ files.children q)
    (hcontent : isContentName n = true) : IsName n := by
  have hlength : 5 < n.toList.length := by
    rw [isContentName, Bool.and_eq_true, decide_eq_true_eq] at hcontent
    exact hcontent.1
  refine ⟨slashless_of_mem_namesBelow (mem_children h).1, ?_, ?_, ?_⟩ <;>
  · rintro rfl
    exact absurd hlength (by decide)

/-- Content files in a directory are in the working directory, and found under their joined
paths. -/
theorem exists_of_hasContent (rooted : files.Rooted)
    (hdirectory : files.locate directory = .ok (q, .directory))
    (has : files.disk.HasContent directory name) :
    ∃ qs bytes, q = .home qs ∧
      files.locate (joinPath directory name) = .ok (.home (qs ++ [name]), .file bytes) := by
  obtain ⟨found, hlist, hmem, hcontent⟩ := has
  obtain ⟨q', hdirectory', rfl⟩ := list_eq_ok.1 hlist
  cases hdirectory.symm.trans hdirectory'
  obtain ⟨⟨n, e⟩, hchild, hfile⟩ := List.mem_map.1 hmem
  obtain ⟨rfl, hfile⟩ := Prod.mk.inj hfile
  obtain ⟨place, rest, hstart, hwalk, hentry⟩ := locate_eq_ok.1 hdirectory
  cases e with
  | directory => cases hfile
  | file bytes =>
    have hroot (qs : List String) (hq : q = .root qs) : False := by
      subst hq
      exact absurd hcontent (by simp [not_isContentName_of_mem_children_root hchild])
    have hname := isName_of_mem_children hchild hcontent
    rcases start?_cases hstart with rfl | rfl
    · cases q with
      | root qs => exact (hroot qs rfl).elim
      | home qs =>
        obtain ⟨rest', hstart', hwalk'⟩ := exists_walk_joinPath rooted hname hstart hwalk hentry
        exact ⟨qs, bytes, rfl, locate_eq_ok.2 ⟨_, rest', hstart', hwalk', (mem_children hchild).2⟩⟩
    · obtain ⟨qs, hq⟩ := walk_root hwalk
      exact (hroot qs hq).elim

end Snapshot

/-! ## Content -/

namespace Disk
variable {disk disk' : Disk} {directory path name : String}

theorem loadContent_congr (h : disk'.read path = disk.read path) :
    disk'.loadContent path = disk.loadContent path := by
  simp only [loadContent, readText, h]

end Disk

namespace Snapshot
variable {files : Snapshot} {names : List String} {name directory : String} {bytes : ByteArray}
  {q : Place}

/-- Content that was loaded from another directory is loaded again. -/
theorem Slot.loadDirectory_withFile (slot : files.Slot names name) (rooted : files.Rooted)
    (hdirectory : files.locate directory = .ok (q, .directory)) (hq : q ≠ .home names)
    {loaded : List (String × Content)} (h : files.disk.loadDirectory directory = .ok loaded) :
    (files.withFile (.home (names ++ [name])) bytes).disk.loadDirectory directory = .ok loaded := by
  have hplace := slot.ne_of_locate hdirectory
  obtain ⟨found, hlist, hloaded⟩ := Disk.exists_list_of_loadDirectory h
  have hlist' : (files.withFile (.home (names ++ [name])) bytes).disk.list directory =
      .ok found := by
    obtain ⟨q', hdirectory', rfl⟩ := list_eq_ok.1 hlist
    cases hdirectory.symm.trans hdirectory'
    rw [← slot.children_withFile bytes hq (slashless_of_locate hdirectory)]
    exact list_eq_ok.2 ⟨q, slot.locate_withFile hdirectory hplace, rfl⟩
  rw [Disk.loadDirectory_of_list hlist']
  refine mapM_ok_of_imp hloaded fun n hn file hfile => ?_
  obtain ⟨qs, bytes', rfl, hlocate⟩ := exists_of_hasContent rooted hdirectory
    ⟨found, hlist, Disk.mem_contentNames.1 hn⟩
  have hne : Place.home (qs ++ [n]) ≠ .home (names ++ [name]) := by
    intro heq
    rw [Place.home.injEq] at heq
    exact hq (congrArg Place.home (List.append_inj_left' heq rfl))
  have hread : (files.withFile (.home (names ++ [name])) bytes).read (joinPath directory n) =
      files.read (joinPath directory n) := by
    rw [read_eq_ok.2 ⟨_, slot.locate_withFile hlocate hne⟩, read_eq_ok.2 ⟨_, hlocate⟩]
  rw [Disk.loadFile_eq_ok] at hfile ⊢
  exact ⟨hfile.1, (Disk.loadContent_congr hread).trans hfile.2⟩

end Snapshot

end Dialogue
