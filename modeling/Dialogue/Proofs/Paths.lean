import Dialogue.Proofs.Files
import Mathlib.Data.List.Induction

/-!
# Paths and what they lead to

A path is taken apart at its slashes, and the names on the way to a place make up its path
(`parts_pathOf`). All that is below a place has a path that begins with its `stem`. A path joined
with a name leads to what has this name in the directory that the path leads to (`walk_joinPath`,
`exists_walk_joinPath`).
-/

namespace Dialogue

namespace Text
variable {α : Type} [BEq α] [LawfulBEq α] {sep : α}

theorem pieces_append_cons (l r : List α) :
    pieces sep (l ++ sep :: r) = pieces sep l ++ pieces sep r := by
  induction l with
  | nil =>
    obtain ⟨first, others, h, hcons⟩ := pieces_cons sep sep r
    rw [List.nil_append, hcons, if_pos (beq_self_eq_true sep), h]
    rfl
  | cons a l ih =>
    obtain ⟨first, others, h, hcons⟩ := pieces_cons sep a l
    obtain ⟨first', others', h', hcons'⟩ := pieces_cons sep a (l ++ sep :: r)
    rw [ih, h, List.cons_append, List.cons.injEq] at h'
    obtain ⟨rfl, rfl⟩ := h'
    rw [List.cons_append, hcons', hcons]
    split <;> rfl

theorem pieces_of_not_mem {l : List α} (h : sep ∉ l) : pieces sep l = [l] := by
  induction l with
  | nil => rfl
  | cons a l ih =>
    rw [List.mem_cons, not_or] at h
    obtain ⟨hne, hl⟩ := h
    obtain ⟨first, others, hl', hcons⟩ := pieces_cons sep a l
    rw [ih hl, List.cons.injEq] at hl'
    obtain ⟨rfl, rfl⟩ := hl'
    rw [hcons, if_neg]
    simpa using Ne.symm hne

omit [LawfulBEq α] in
theorem mem_of_mem_pieces {l p : List α} {a : α} (hp : p ∈ pieces sep l) (ha : a ∈ p) : a ∈ l := by
  induction l generalizing p with
  | nil =>
    rw [pieces_nil, List.mem_singleton] at hp
    exact hp ▸ ha
  | cons b l ih =>
    obtain ⟨first, others, hl, hcons⟩ := pieces_cons sep b l
    rw [hcons] at hp
    rw [hl] at ih
    split at hp
    · rcases List.mem_cons.1 hp with rfl | hp
      · cases ha
      · exact List.mem_cons_of_mem _ (ih hp ha)
    · rcases List.mem_cons.1 hp with rfl | hp
      · rcases List.mem_cons.1 ha with rfl | ha
        · exact List.mem_cons_self
        · exact List.mem_cons_of_mem _ (ih List.mem_cons_self ha)
      · exact List.mem_cons_of_mem _ (ih (List.mem_cons_of_mem _ hp) ha)

omit [BEq α] [LawfulBEq α] in
theorem intercalate_concat {ls : List (List α)} (hne : ls ≠ []) (l : List α) :
    [sep].intercalate (ls ++ [l]) = [sep].intercalate ls ++ sep :: l := by
  induction ls with
  | nil => exact (hne rfl).elim
  | cons first ls ih =>
    cases ls with
    | nil => simp
    | cons second ls =>
      rw [List.cons_append, List.cons_append, List.intercalate_cons_cons,
        List.intercalate_cons_cons, ← List.cons_append, ih (by simp)]
      simp

theorem pieces_intercalate {ls : List (List α)} (hne : ls ≠ []) (h : ∀ l ∈ ls, sep ∉ l) :
    pieces sep ([sep].intercalate ls) = ls := by
  induction ls using List.reverseRecOn with
  | nil => exact (hne rfl).elim
  | append_singleton ls l ih =>
    have hl : pieces sep l = [l] := pieces_of_not_mem (h l (by simp))
    by_cases hls : ls = []
    · subst hls
      simpa using hl
    · rw [intercalate_concat hls, pieces_append_cons, hl, ih hls fun l' hl' => h l' (by simp [hl'])]

end Text

namespace Snapshot

/-! ## Names and paths -/

theorem dropStart?_eq_some {start s rest : String} :
    dropStart? start s = some rest ↔ s = start ++ rest := by
  rw [dropStart?]
  constructor
  · intro h
    split at h
    · next hstarts =>
      cases h
      obtain ⟨cs, hcs⟩ := List.isPrefixOf_iff_prefix.1 hstarts
      rw [← String.toList_inj, String.toList_append, String.toList_ofList, ← hcs,
        ← String.length_toList, List.drop_left]
    · cases h
  · rintro rfl
    have hstarts : start.toList.isPrefixOf (start ++ rest).toList = true := by
      rw [List.isPrefixOf_iff_prefix, String.toList_append]
      exact List.prefix_append ..
    rw [if_pos hstarts, String.toList_append, ← String.length_toList, List.drop_left,
      String.ofList_toList]

theorem isSome_dropStart? {start s : String} :
    (dropStart? start s).isSome = true ↔ ∃ rest, s = start ++ rest := by
  rw [Option.isSome_iff_exists]
  exact exists_congr fun _ => dropStart?_eq_some

theorem dropStart?_eq_none {start s : String} :
    dropStart? start s = none ↔ ∀ rest, s ≠ start ++ rest := by
  simp only [Option.eq_none_iff_forall_ne_some, Ne, dropStart?_eq_some]

/-- A path that does not begin with a slash goes on without beginning with one. -/
theorem dropStart?_slash_append {r : String} (hr : r ≠ "") (h : dropStart? "/" r = none)
    (x : String) : dropStart? "/" (r ++ x) = none := by
  rw [dropStart?_eq_none] at h ⊢
  intro y hy
  obtain ⟨c, cs, hc⟩ : ∃ c cs, r.toList = c :: cs :=
    List.exists_cons_of_ne_nil (by simpa using hr)
  have hchars := congrArg String.toList hy
  rw [String.toList_append, String.toList_append, hc] at hchars
  have hslash : c = '/' := (List.cons.inj hchars).1
  exact h (String.ofList cs) (by simp [← String.toList_inj, hc, hslash])

theorem parts_append (a b : String) : parts (a ++ "/" ++ b) = parts a ++ parts b := by
  have hchars : (a ++ "/" ++ b).toList = a.toList ++ '/' :: b.toList := by simp
  rw [parts, hchars, Text.pieces_append_cons, List.map_append]
  rfl

theorem parts_of_slashless {name : String} (h : '/' ∉ name.toList) : parts name = [name] := by
  rw [parts, Text.pieces_of_not_mem h]
  simp

theorem mem_of_mem_parts {path part : String} (h : part ∈ parts path) {c : Char}
    (hc : c ∈ part.toList) : c ∈ path.toList := by
  obtain ⟨cs, hcs, rfl⟩ := List.mem_map.1 h
  rw [String.toList_ofList] at hc
  exact Text.mem_of_mem_pieces hcs hc

theorem headD_mem_parts (path : String) : (parts path).headD "" ∈ parts path := List.mem_cons_self

/-- None of the names has a slash in it. -/
def Slashless (names : List String) : Prop := ∀ name ∈ names, '/' ∉ name.toList

theorem slashless_parts (path : String) : Slashless (parts path) := by
  intro part h
  obtain ⟨cs, hcs, rfl⟩ := List.mem_map.1 h
  rw [String.toList_ofList]
  exact Text.not_mem_of_mem_pieces hcs

theorem toList_pathOf (names : List String) :
    (pathOf names).toList = ['/'].intercalate (names.map String.toList) := by
  rw [pathOf, String.toList_intercalate]
  rfl

theorem parts_pathOf {names : List String} (hne : names ≠ [])
    (h : Slashless names) : parts (pathOf names) = names := by
  rw [parts, toList_pathOf, Text.pieces_intercalate (by simpa using hne)
    (List.forall_mem_map.2 h), List.map_map]
  simp [Function.comp_def]

/-- What all paths begin with that lead below a place. -/
def stem (names : List String) : String := if names.isEmpty then "" else pathOf names ++ "/"

theorem stem_of_ne {names : List String} (hne : names ≠ []) : stem names = pathOf names ++ "/" :=
  if_neg (by simpa using hne)

theorem stem_ne_empty {names : List String} (hne : names ≠ []) : stem names ≠ "" := by
  rw [stem_of_ne hne]
  intro h
  exact absurd (String.append_eq_empty_iff.1 h).2 (by decide)

theorem pathOf_concat (names : List String) (name : String) :
    pathOf (names ++ [name]) = stem names ++ name := by
  by_cases hne : names = []
  · subst hne
    simp [pathOf, stem]
  · rw [stem_of_ne hne, ← String.toList_inj, toList_pathOf, List.map_append, List.map_singleton,
      Text.intercalate_concat (by simpa using hne), ← toList_pathOf]
    simp

/-- A name can come next in the text: there is nothing before it, or a slash. -/
def Slashed (s : String) : Prop := s = "" ∨ ∃ d, s = d ++ "/"

theorem stem_slashed (names : List String) : Slashed (stem names) := by
  by_cases hne : names = []
  · subst hne
    exact .inl rfl
  · exact .inr ⟨_, stem_of_ne hne⟩

/-- Before a name, a text that ends with a slash ends too. -/
theorem append_of_slashed {p r a name : String} (hp : Slashed p)
    (hname : '/' ∉ name.toList) (h : a ++ name = p ++ r) : ∃ m, a = p ++ m ∧ r = m ++ name := by
  have hchars : a.toList ++ name.toList = p.toList ++ r.toList := by
    rw [← String.toList_append, ← String.toList_append, h]
  rcases List.append_eq_append_iff.1 hchars with ⟨m, hpm, hm⟩ | ⟨m, ham, hm⟩
  · -- what is left of the text would stand in the name
    have hnil : m = [] := by
      rcases hp with rfl | ⟨d, rfl⟩
      · exact (List.append_eq_nil_iff.1 hpm.symm).2
      · rcases List.eq_nil_or_concat' m with rfl | ⟨m, c, rfl⟩
        · rfl
        · rw [String.toList_append, ← List.append_assoc] at hpm
          have hc : '/' = c := by simpa using (List.append_inj' hpm rfl).2
          subst hc
          exact (hname (by simp [hm])).elim
    subst hnil
    refine ⟨"", ?_, ?_⟩
    · simpa [← String.toList_inj] using hpm.symm
    · simpa [← String.toList_inj] using hm.symm
  · refine ⟨String.ofList m, ?_, ?_⟩
    · simpa [← String.toList_inj] using ham
    · simpa [← String.toList_inj] using hm

/-- A slash at the end stands at the end of what comes last. -/
theorem append_slash {k p r : String} (h : k ++ "/" = p ++ r) :
    (r = "" ∧ p = k ++ "/") ∨ ∃ r₀, r = r₀ ++ "/" ∧ k = p ++ r₀ := by
  rcases List.eq_nil_or_concat' r.toList with hr | ⟨cs, c, hr⟩
  · obtain rfl : r = "" := by simpa using hr
    exact .inl ⟨rfl, by simpa using h.symm⟩
  · have hchars : k.toList ++ ['/'] = (p.toList ++ cs) ++ [c] := by
      rw [List.append_assoc, ← hr]
      simpa using congrArg String.toList h
    obtain ⟨hk, hc⟩ := List.append_inj' hchars rfl
    refine .inr ⟨String.ofList cs, ?_, ?_⟩
    · simp [← String.toList_inj, hr, ← hc]
    · simp [← String.toList_inj, hk]

/-- Texts before and after the last slash. -/
theorem stem_append_inj {names qs : List String} {n name : String} (hn : '/' ∉ n.toList)
    (hname : '/' ∉ name.toList) (h : stem qs ++ n = stem names ++ name) :
    stem qs = stem names ∧ n = name := by
  obtain ⟨m, hstem, hm⟩ := append_of_slashed (stem_slashed names) hn h
  rcases stem_slashed qs with hqs | ⟨d, hqs⟩
  · rw [hqs, eq_comm, String.append_eq_empty_iff] at hstem
    rw [hqs, hstem.1, hm, hstem.2]
    exact ⟨rfl, by simp⟩
  · rcases append_slash (hqs.symm.trans hstem) with ⟨rfl, hnames⟩ | ⟨r, rfl, -⟩
    · exact ⟨hqs.trans hnames.symm, by rw [hm, String.empty_append]⟩
    · exact (hname (by simp [hm])).elim

/-- Names without a slash are told by their path. -/
theorem pathOf_inj {names qs : List String} (hnames : Slashless names) (hqs : Slashless qs)
    (hne : names ≠ []) (hne' : qs ≠ []) (h : pathOf names = pathOf qs) : names = qs := by
  rw [← parts_pathOf hne hnames, h, parts_pathOf hne' hqs]

theorem stem_inj {names qs : List String} (hnames : Slashless names) (hqs : Slashless qs)
    (h : stem names = stem qs) : names = qs := by
  by_cases hne : names = []
  · subst hne
    by_contra hne'
    exact stem_ne_empty (Ne.symm hne') h.symm
  · by_cases hne' : qs = []
    · subst hne'
      exact (stem_ne_empty hne h).elim
    · rw [stem_of_ne hne, stem_of_ne hne'] at h
      exact pathOf_inj hnames hqs hne hne' ((String.append_left_inj "/").1 h)

theorem headD_parts_append (a b : String) :
    (parts (a ++ "/" ++ b)).headD "" = (parts a).headD "" := by
  obtain ⟨first, others, h⟩ : ∃ first others, parts a = first :: others := ⟨_, _, rfl⟩
  rw [parts_append, h]
  rfl

variable {files : Snapshot} {names : List String} {name path directory rest : String}
  {p q place : Place} {e : Entry}

/-! ## Where paths lead -/

theorem locate_eq_ok : files.locate path = .ok (q, e) ↔
    ∃ place rest, files.start? path = some (place, rest) ∧
      files.walk place (parts rest) = .ok q ∧ files.entry? q = some e := by
  unfold locate
  constructor
  · intro h
    split at h
    · cases h
    · next place rest hstart =>
      obtain ⟨q', hwalk, h⟩ := exists_of_bind_ok h
      split at h
      · next hentry =>
        cases h
        exact ⟨place, rest, hstart, hwalk, hentry⟩
      · cases h
  · rintro ⟨place, rest, hstart, hwalk, hentry⟩
    rw [hstart]
    simp only [hwalk, bind, Except.bind, hentry]
    rfl

theorem exists_of_walk_append {ps rest : List String} (h : files.walk p (ps ++ rest) = .ok q) :
    ∃ m, files.walk p ps = .ok m ∧ files.walk m rest = .ok q := by
  induction ps generalizing p with
  | nil => exact ⟨p, rfl, h⟩
  | cons part ps ih =>
    obtain ⟨hp, h⟩ := directory_of_walk h
    obtain ⟨m, hm, hq⟩ := ih h
    exact ⟨m, (walk_cons hp).trans hm, hq⟩

theorem slashless_step {part : String} (hpart : '/' ∉ part.toList)
    (hp : Slashless p.names) : Slashless (p.step part).names := by
  have hparent : Slashless p.parent.names := by
    cases p with
    | home names =>
      cases names with
      | nil => exact List.forall_mem_nil _
      | cons first names => exact fun name h => hp name (List.dropLast_subset _ h)
    | root names => exact fun name h => hp name (List.dropLast_subset _ h)
  have hchild : Slashless (p.child part).names := by
    cases p with
    | home names | root names =>
      exact List.forall_mem_append.2 ⟨hp, List.forall_mem_singleton.2 hpart⟩
  rw [Place.step]
  split
  · exact hp
  · split
    · exact hparent
    · exact hchild

theorem slashless_of_walk {ps : List String} (h : files.walk p ps = .ok q) (hps : Slashless ps)
    (hp : Slashless p.names) : Slashless q.names := by
  induction ps generalizing p with
  | nil =>
    cases h
    exact hp
  | cons part ps ih =>
    obtain ⟨-, h⟩ := directory_of_walk h
    obtain ⟨hpart, hps⟩ := List.forall_mem_cons.1 hps
    exact ih h hps (slashless_step hpart hp)

/-- A path that begins at the root does not lead into the working directory. -/
theorem walk_root {qs ps : List String} (h : files.walk (.root qs) ps = .ok q) :
    ∃ qs, q = .root qs := by
  induction ps generalizing qs with
  | nil =>
    cases h
    exact ⟨qs, rfl⟩
  | cons part ps ih =>
    obtain ⟨-, h⟩ := directory_of_walk h
    have hstep : ∃ qs', (Place.root qs).step part = .root qs' := by
      rw [Place.step]
      split
      · exact ⟨_, rfl⟩
      · split <;> exact ⟨_, rfl⟩
    obtain ⟨qs', hstep⟩ := hstep
    rw [hstep] at h
    exact ih h

theorem start?_cases (h : files.start? path = some (place, rest)) :
    place = .home [] ∨ place = .root [] := by
  unfold start? at h
  split at h
  · cases h
    exact .inl rfl
  · split at h
    · cases h
      exact .inl rfl
    · cases h
      exact .inr rfl
    · split at h
      · cases h
      · cases h
        exact .inl rfl

/-! ## Paths of files in a directory -/

/-- A name that something in a directory can have. -/
structure IsName (name : String) : Prop where
  slashless : '/' ∉ name.toList
  nonempty : name ≠ ""
  dot : name ≠ "."
  dots : name ≠ ".."

theorem IsName.walk (h : IsName name) (hp : files.entry? p = some .directory) :
    files.walk p [name] = .ok (p.child name) := by
  rw [walk_cons hp, Place.step, if_neg (not_or.2 ⟨h.nonempty, h.dot⟩), if_neg h.dots, Snapshot.walk]

theorem IsName.head (h : IsName name) : (name.toList.head? == some '/') = false := by
  rw [beq_eq_false_iff_ne]
  exact fun hc => h.slashless (List.mem_of_mem_head? hc)

theorem getLast?_slash {s : String} : s.toList.getLast? = some '/' ↔ ∃ d, s = d ++ "/" := by
  rw [List.getLast?_eq_some_iff]
  constructor
  · rintro ⟨cs, h⟩
    exact ⟨String.ofList cs, by simp [← String.toList_inj, h]⟩
  · rintro ⟨d, rfl⟩
    exact ⟨d.toList, by simp⟩

theorem slashed_iff {s : String} :
    Slashed s ↔ (s.isEmpty || s.toList.getLast? == some '/') = true := by
  rw [Bool.or_eq_true, String.isEmpty_iff, beq_iff_eq, getLast?_slash, Slashed]

theorem joinPath_of_slashed (h : IsName name) (hd : Slashed directory) :
    joinPath directory name = directory ++ name := by
  have hd : (directory.isEmpty || directory.toList.getLast? == some '/') = true := by
    rwa [slashed_iff] at hd
  rw [joinPath, h.head, hd]
  rfl

theorem joinPath_of_not_slashed (h : IsName name) (hd : ¬Slashed directory) :
    joinPath directory name = directory ++ "/" ++ name := by
  have hd : (directory.isEmpty || directory.toList.getLast? == some '/') = false := by
    rwa [slashed_iff, Bool.not_eq_true] at hd
  rw [joinPath, h.head, hd]
  rfl

/-- What stands before a path and ends with a slash has no part in joining. -/
theorem joinPath_append (h : IsName name) {a r : String} (ha : ∃ d, a = d ++ "/") :
    joinPath (a ++ r) name = a ++ joinPath r name := by
  by_cases hslashed : Slashed r
  · have hwhole : Slashed (a ++ r) := by
      rcases hslashed with rfl | ⟨d, rfl⟩
      · rw [String.append_empty]
        exact .inr ha
      · exact .inr ⟨a ++ d, String.append_assoc.symm⟩
    rw [joinPath_of_slashed h hwhole, joinPath_of_slashed h hslashed, String.append_assoc]
  · have hwhole : ¬Slashed (a ++ r) := by
      rintro (hempty | ⟨d, hd⟩)
      · exact hslashed (.inl (String.append_eq_empty_iff.1 hempty).2)
      · rcases append_slash hd.symm with ⟨hempty, -⟩ | ⟨r₀, hr₀, -⟩
        · exact hslashed (.inl hempty)
        · exact hslashed (.inr ⟨r₀, hr₀⟩)
    rw [joinPath_of_not_slashed h hwhole, joinPath_of_not_slashed h hslashed, String.append_assoc,
      String.append_assoc, String.append_assoc]

/-- A path joined with a name leads to what has that name where the path leads to. -/
theorem walk_joinPath (h : IsName name) (hwalk : files.walk p (parts rest) = .ok q)
    (hq : files.entry? q = some .directory) :
    files.walk p (parts (joinPath rest name)) = .ok (q.child name) := by
  by_cases hslashed : Slashed rest
  · rw [joinPath_of_slashed h hslashed]
    rcases hslashed with rfl | ⟨d, rfl⟩
    · obtain ⟨hp, hq'⟩ := directory_of_walk hwalk
      cases hq'
      rw [String.empty_append, parts_of_slashless h.slashless]
      exact h.walk hp
    · have hparts : parts (d ++ "/") = parts d ++ [""] := by
        rw [← String.append_empty (s := d ++ "/"), parts_append]
        rfl
      rw [hparts] at hwalk
      obtain ⟨m, hm, hwalk⟩ := exists_of_walk_append hwalk
      obtain ⟨-, hq'⟩ := directory_of_walk hwalk
      cases hq'
      rw [parts_append, parts_of_slashless h.slashless, walk_append hm]
      exact h.walk hq
  · rw [joinPath_of_not_slashed h hslashed, parts_append, parts_of_slashless h.slashless,
      walk_append hwalk]
    exact h.walk hq

/-- The path of the working directory is one from the root. -/
def Rooted (files : Snapshot) : Prop := ∃ rest, files.home = "/" ++ rest

theorem Rooted.ne_append (rooted : files.Rooted) (hne : path ≠ "") (h : dropStart? "/" path = none)
    (x y : String) : path ++ x ≠ files.home ++ y := by
  obtain ⟨r, hr⟩ := rooted
  intro heq
  refine dropStart?_eq_none.1 (dropStart?_slash_append hne h x) (r ++ y) ?_
  rw [heq, hr, String.append_assoc]

theorem exists_homeStem (files : Snapshot) :
    (∃ d, files.homeStem = d ++ "/") ∧ ∃ y, files.homeStem = files.home ++ y := by
  rw [homeStem]
  split
  · next hslash => exact ⟨getLast?_slash.1 (by simpa using hslash), "", String.append_empty.symm⟩
  · exact ⟨⟨_, rfl⟩, "/", rfl⟩

theorem start?_below {r : String} (hr : r ≠ "") :
    files.start? (files.homeStem ++ r) = some (.home [], r) := by
  have hne : files.homeStem ++ r ≠ files.home := by
    obtain ⟨-, y, hy⟩ := files.exists_homeStem
    rw [hy, String.append_assoc]
    intro heq
    exact hr (String.append_eq_empty_iff.1 (String.append_eq_left_iff.1 heq)).2
  rw [start?, if_neg hne, dropStart?_eq_some.2 rfl]

theorem start?_relative (rooted : files.Rooted) (hne : path ≠ "")
    (h : dropStart? "/" path = none) : files.start? path = some (.home [], path) := by
  have hhome : path ≠ files.home := by simpa using rooted.ne_append hne h "" ""
  have hstem : dropStart? files.homeStem path = none := by
    obtain ⟨-, y, hy⟩ := files.exists_homeStem
    rw [dropStart?_eq_none, hy]
    intro z
    simpa [String.append_assoc] using rooted.ne_append hne h "" (y ++ z)
  rw [start?, if_neg hhome, hstem, h]
  simp [hne]

/-- The ways in which a path begins in the working directory. -/
theorem start?_home_cases (h : files.start? path = some (.home [], rest)) :
    (path = files.home ∧ rest = ".") ∨ path = files.homeStem ++ rest ∨
      dropStart? "/" path = none ∧ path ≠ "" ∧ rest = path := by
  unfold start? at h
  split at h
  · next hhome =>
    cases h
    exact .inl ⟨hhome, rfl⟩
  · split at h
    · next hstem =>
      cases h
      exact .inr (.inl (dropStart?_eq_some.1 hstem))
    · cases h
    · next hroot =>
      split at h
      · cases h
      · next hempty =>
        cases h
        exact .inr (.inr ⟨hroot, by simpa using hempty, rfl⟩)

theorem exists_joinPath (h : IsName name) (directory : String) :
    ∃ x, x ≠ "" ∧ joinPath directory name = directory ++ x := by
  by_cases hslashed : Slashed directory
  · exact ⟨name, h.nonempty, joinPath_of_slashed h hslashed⟩
  · refine ⟨"/" ++ name, fun hempty => h.nonempty (String.append_eq_empty_iff.1 hempty).2, ?_⟩
    rw [joinPath_of_not_slashed h hslashed, String.append_assoc]

theorem joinPath_home (rooted : files.Rooted) (h : IsName name) :
    joinPath files.home name = files.homeStem ++ name := by
  have hne : files.home.isEmpty = false := by
    obtain ⟨r, hr⟩ := rooted
    rw [hr, Bool.eq_false_iff, Ne, String.isEmpty_iff]
    exact fun hempty => absurd (String.append_eq_empty_iff.1 hempty).1 (by decide)
  rw [joinPath, h.head, hne, homeStem, Bool.false_or, if_neg Bool.false_ne_true]
  split <;> rfl

/-- A file in a directory is found under the joined path. -/
theorem exists_walk_joinPath (rooted : files.Rooted) (h : IsName name)
    (hstart : files.start? directory = some (.home [], rest))
    (hwalk : files.walk (.home []) (parts rest) = .ok q)
    (hq : files.entry? q = some .directory) :
    ∃ rest', files.start? (joinPath directory name) = some (.home [], rest') ∧
      files.walk (.home []) (parts rest') = .ok (q.child name) := by
  obtain ⟨x, hx, hjoin⟩ := exists_joinPath h rest
  rcases start?_home_cases hstart with ⟨rfl, rfl⟩ | rfl | ⟨hroot, hne, rfl⟩
  · -- the working directory itself
    obtain rfl : Place.home [] = q := Except.ok.inj hwalk
    rw [joinPath_home rooted h]
    refine ⟨_, start?_below h.nonempty, ?_⟩
    rw [parts_of_slashless h.slashless]
    exact h.walk rfl
  · obtain ⟨hslash, -⟩ := files.exists_homeStem
    rw [joinPath_append h hslash]
    refine ⟨_, start?_below ?_, walk_joinPath h hwalk hq⟩
    rw [hjoin]
    exact fun hempty => hx (String.append_eq_empty_iff.1 hempty).2
  · refine ⟨_, start?_relative rooted ?_ ?_, walk_joinPath h hwalk hq⟩
    · rw [hjoin]
      exact fun hempty => hx (String.append_eq_empty_iff.1 hempty).2
    · rw [hjoin]
      exact dropStart?_slash_append hne hroot x

end Snapshot

end Dialogue
