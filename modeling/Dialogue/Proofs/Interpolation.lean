import Dialogue.Placeholder

/-!
# Lines filled in at once

Interpolation fills in one placeholder after another, each throughout what the ones before it have
left. Beside it stands `fillIn`, which reads a line once from left to right and looks at no value
again. The two can differ, as a value may bring a placeholder or make one up with the text around
it. Where the line filled in at once shows no placeholder, they agree, and so do all other orders
(`interpolate_eq_fillIn`).

A token begins with an opening brace and ends with a closing one. So no token ever runs into text
before which has no opening brace or into text after which has no closing one, whatever the values
are, and such text stays around what a line becomes (`interpolate_frame`).
-/

namespace Dialogue

/-- A part of a line: a character that stands for itself, or a place for a value. -/
inductive Piece where
  | char (c : Char)
  | slot (x : Placeholder)
  deriving DecidableEq

namespace Piece

/-- The placeholder that a text begins with. -/
def leading? (cs : List Char) : Option Placeholder :=
  Placeholder.inOrder.find? (·.token.isPrefixOf cs)

/-- The pieces of a text from left to right, after `skip` characters that a placeholder has
covered. -/
def scan : (skip : Nat) → List Char → List Piece
  | _, [] => []
  | skip + 1, _ :: cs => scan skip cs
  | 0, c :: cs =>
    match leading? (c :: cs) with
    | some x => .slot x :: scan (x.token.length - 1) cs
    | none => .char c :: scan 0 cs

/-- What stands in the place of a piece in the end. -/
def filled (p : Profile) : Piece → List Char
  | .char c => [c]
  | .slot x => (x.value p).toList

/-- What stands in the place of a piece when only the placeholders in `done` are filled in. -/
def shown (p : Profile) (done : List Placeholder) : Piece → List Char
  | .char c => [c]
  | .slot x => if x ∈ done then (x.value p).toList else x.token

end Piece

/-- The line with a profile's values in the places of its placeholders, all filled in at once. -/
def fillIn (p : Profile) (line : String) : String :=
  String.ofList ((Piece.scan 0 line.toList).flatMap (Piece.filled p))

/-- The line with the placeholders of a list filled in one after another. -/
def fillInTurn (order : List Placeholder) (p : Profile) (line : String) : String :=
  String.ofList <| order.foldl (fun cs x => replaceFrom x.token (x.value p).toList 0 cs) line.toList

open Placeholder

/-! ## Tokens -/

namespace Placeholder

theorem token_eq (x : Placeholder) : x.token = '\x7b' :: (x.name.toList ++ ['\x7d']) := rfl

/-- Braces stand at the ends of a token only. -/
theorem not_mem_name (x : Placeholder) : '\x7b' ∉ x.name.toList ∧ '\x7d' ∉ x.name.toList := by
  cases x <;> decide

theorem not_mem_tail (x : Placeholder) : '\x7b' ∉ x.name.toList ++ ['\x7d'] := by
  simp [x.not_mem_name.1]

/-- No token begins in text without an opening brace. -/
theorem not_prefix_of_not_mem {x : Placeholder} {s rest : List Char} (hs : s ≠ [])
    (hbrace : '\x7b' ∉ s) : ¬x.token <+: s ++ rest := by
  intro hbegins
  obtain ⟨c, cs, rfl⟩ := List.exists_cons_of_ne_nil hs
  rw [token_eq, List.cons_append, List.cons_prefix_cons] at hbegins
  exact hbrace (hbegins.1 ▸ List.mem_cons_self)

/-- No token is the beginning of another. -/
theorem eq_of_prefix_token {x y : Placeholder} (h : x.token <+: y.token) : x = y := by
  cases x <;> cases y <;> first | rfl | exact absurd h (by decide)

theorem mem_inOrder (x : Placeholder) : x ∈ inOrder := by cases x <;> decide

end Placeholder

/-! ## Replacing -/

section
variable {token value : List Char}

/-- Text in which no occurrence of the token begins stays. -/
theorem replaceFrom_append {text rest : List Char}
    (h : ∀ s, s ≠ [] → s <:+ text → ¬token <+: s ++ rest) :
    replaceFrom token value 0 (text ++ rest) = text ++ replaceFrom token value 0 rest := by
  induction text with
  | nil => rfl
  | cons c cs ih =>
    have hc : ¬token.isPrefixOf (c :: (cs ++ rest)) = true :=
      mt List.isPrefixOf_iff_prefix.1 (h (c :: cs) (by simp) (List.suffix_refl _))
    have hcs := ih fun s hs hsuffix => h s hs (hsuffix.trans (List.suffix_cons ..))
    rw [List.cons_append, replaceFrom, if_neg hc, hcs, List.cons_append]

theorem replaceFrom_covered (covered rest : List Char) :
    replaceFrom token value covered.length (covered ++ rest) = replaceFrom token value 0 rest := by
  induction covered with
  | nil => rfl
  | cons c cs ih => exact ih

theorem replaceFrom_token (h : token ≠ []) (rest : List Char) :
    replaceFrom token value 0 (token ++ rest) = value ++ replaceFrom token value 0 rest := by
  obtain ⟨c, cs, rfl⟩ := List.exists_cons_of_ne_nil h
  have hbegins : (c :: cs).isPrefixOf (c :: (cs ++ rest)) = true :=
    List.isPrefixOf_iff_prefix.2 (List.prefix_append (c :: cs) rest)
  rw [List.cons_append, replaceFrom, if_pos hbegins, List.length_cons, Nat.add_sub_cancel,
    replaceFrom_covered]

/-- Text in which the token does not occur stays. -/
theorem replaceFrom_of_not_infix {text : List Char} (h : ¬token <:+: text) :
    replaceFrom token value 0 text = text := by
  have hnone (s : List Char) (_ : s ≠ []) (hs : s <:+ text) : ¬token <+: s ++ [] := by
    rw [List.append_nil]
    exact fun hbegins => h (hbegins.isInfix.trans hs.isInfix)
  simpa [replaceFrom] using replaceFrom_append hnone

/-- Before text without its last character, a token does not end any later. -/
theorem prefix_append_iff {c : Char} {cs text after : List Char} (h : c ∉ after) :
    cs ++ [c] <+: text ++ after ↔ cs ++ [c] <+: text := by
  refine ⟨fun hbegins => ?_, fun hbegins => hbegins.trans (List.prefix_append ..)⟩
  have htext : text <+: text ++ after := List.prefix_append ..
  rcases List.prefix_or_prefix_of_prefix hbegins htext with h | ⟨w, hw⟩
  · exact h
  rcases List.eq_nil_or_concat w with rfl | ⟨w, d, rfl⟩
  · rw [List.append_nil] at hw
    exact hw ▸ List.prefix_rfl
  · rw [← hw, List.prefix_append_right_inj] at hbegins
    rw [List.concat_eq_append, ← List.append_assoc] at hw
    obtain rfl : d = c := List.singleton_inj.1 (List.append_inj_right' hw rfl)
    exact (h (hbegins.subset (by simp))).elim

/-- Text without the last character of the token stays behind what is replaced. -/
theorem replaceFrom_append_right {c : Char} {cs after : List Char} (h : c ∉ after)
    (text : List Char) {skip : Nat} (covered : skip ≤ text.length) :
    replaceFrom (cs ++ [c]) value skip (text ++ after) =
      replaceFrom (cs ++ [c]) value skip text ++ after := by
  induction text generalizing skip with
  | nil =>
    obtain rfl : skip = 0 := Nat.le_zero.1 covered
    exact replaceFrom_of_not_infix fun hmem => h (hmem.subset (by simp))
  | cons d text ih =>
    cases skip with
    | succ skip => exact ih (Nat.le_of_succ_le_succ covered)
    | zero =>
      have hbegins : (cs ++ [c]).isPrefixOf (d :: (text ++ after)) =
          (cs ++ [c]).isPrefixOf (d :: text) := by
        rw [Bool.eq_iff_iff, List.isPrefixOf_iff_prefix, List.isPrefixOf_iff_prefix]
        exact @prefix_append_iff c cs (d :: text) after h
      rw [List.cons_append, replaceFrom, replaceFrom, hbegins]
      split
      · next hprefix =>
        have hlength := (List.isPrefixOf_iff_prefix.1 hprefix).length_le
        rw [ih (Nat.sub_le_of_le_add hlength), List.append_assoc]
      · rw [ih (Nat.zero_le _), List.cons_append]

end

/-! ## Pieces -/

namespace Piece
variable {p : Profile} {pieces : List Piece} {done : List Placeholder} {x : Placeholder}

theorem shown_of_mem (h : x ∈ done) : shown p done (.slot x) = filled p (.slot x) := if_pos h

theorem shown_of_not_mem (h : x ∉ done) : shown p done (.slot x) = x.token := if_neg h

theorem filled_chars (cs : List Char) : (cs.map Piece.char).flatMap (filled p) = cs := by
  simp [List.flatMap_map, filled]

theorem shown_chars (cs : List Char) : (cs.map Piece.char).flatMap (shown p done) = cs := by
  simp [List.flatMap_map, shown]

/-- Text without an opening brace that the pieces begin with at some stage is there in the end: up
to the next placeholder nothing changes any more. -/
theorem prefix_filled_of_prefix_shown {w : List Char} (hw : '\x7b' ∉ w)
    (h : w <+: pieces.flatMap (shown p done)) : w <+: pieces.flatMap (filled p) := by
  induction pieces generalizing w with
  | nil => exact h
  | cons piece pieces ih =>
    rw [List.flatMap_cons] at h ⊢
    have hvalue {v : List Char} (h : w <+: v ++ pieces.flatMap (shown p done)) :
        w <+: v ++ pieces.flatMap (filled p) := by
      rcases List.prefix_or_prefix_of_prefix h (List.prefix_append v _) with hv | ⟨w', rfl⟩
      · exact hv.trans (List.prefix_append ..)
      · rw [List.prefix_append_right_inj] at h ⊢
        exact ih (fun hmem => hw (List.mem_append_right _ hmem)) h
    cases piece with
    | char c => exact hvalue h
    | slot y =>
      by_cases hy : y ∈ done
      · rw [shown_of_mem hy] at h
        exact hvalue h
      · rw [shown_of_not_mem hy, token_eq] at h
        cases w with
        | nil => exact List.nil_prefix
        | cons c w =>
          rw [List.cons_append, List.cons_prefix_cons] at h
          simp [h.1] at hw

/-- If no token shows in the end, none begins in text that stays as it is. -/
theorem not_prefix_of_clear {text : List Char}
    (clear : ¬x.token <:+: text ++ pieces.flatMap (filled p)) :
    ∀ s, s ≠ [] → s <:+ text → ¬x.token <+: s ++ pieces.flatMap (shown p done) := by
  rintro s hs ⟨before, rfl⟩ hbegins
  refine clear (List.IsInfix.trans (List.IsPrefix.isInfix ?_)
    (List.append_assoc before s _ ▸ (List.suffix_append before _).isInfix))
  obtain ⟨c, cs, rfl⟩ := List.exists_cons_of_ne_nil hs
  rw [token_eq, List.cons_append, List.cons_prefix_cons] at hbegins ⊢
  refine ⟨hbegins.1, ?_⟩
  have hcs : x.name.toList ++ ['\x7d'] <+: (cs.map char ++ pieces).flatMap (shown p done) := by
    rw [List.flatMap_append, shown_chars]
    exact hbegins.2
  have hfilled := prefix_filled_of_prefix_shown x.not_mem_tail hcs
  rwa [List.flatMap_append, filled_chars] at hfilled

/-- No token begins in another. -/
theorem not_prefix_in_token {y : Placeholder} (hne : x ≠ y) {rest : List Char} :
    ∀ s, s ≠ [] → s <:+ y.token → ¬x.token <+: s ++ rest := by
  intro s hs hsuffix
  rcases List.suffix_cons_iff.1 hsuffix with rfl | hsuffix
  · intro hbegins
    rcases List.prefix_or_prefix_of_prefix hbegins (List.prefix_append y.token rest) with h | h
    · exact hne (eq_of_prefix_token h)
    · exact hne (eq_of_prefix_token h).symm
  · exact not_prefix_of_not_mem hs fun hmem => y.not_mem_tail (hsuffix.subset hmem)

/-- Filling in one placeholder more. -/
theorem replaceFrom_shown (clear : ¬x.token <:+: pieces.flatMap (filled p)) :
    replaceFrom x.token (x.value p).toList 0 (pieces.flatMap (shown p done)) =
      pieces.flatMap (shown p (x :: done)) := by
  induction pieces with
  | nil => rfl
  | cons piece pieces ih =>
    rw [List.flatMap_cons] at clear
    have ih := ih fun h => clear (h.trans (List.suffix_append ..).isInfix)
    rw [List.flatMap_cons, List.flatMap_cons, ← ih]
    cases piece with
    | char c => exact replaceFrom_append (not_prefix_of_clear clear)
    | slot y =>
      by_cases hy : y ∈ done
      · rw [shown_of_mem hy, shown_of_mem (List.mem_cons_of_mem x hy)]
        exact replaceFrom_append (not_prefix_of_clear clear)
      by_cases hne : x = y
      · subst hne
        rw [shown_of_not_mem hy, shown_of_mem List.mem_cons_self]
        exact replaceFrom_token (by simp [token_eq]) _
      · rw [shown_of_not_mem hy, shown_of_not_mem (by simp [hy, Ne.symm hne])]
        exact replaceFrom_append (not_prefix_in_token hne)

theorem foldl_replaceFrom_shown (clear : ∀ x : Placeholder, ¬x.token <:+: pieces.flatMap (filled p))
    (order : List Placeholder) :
    order.foldl (fun cs x => replaceFrom x.token (x.value p).toList 0 cs)
        (pieces.flatMap (shown p done)) =
      pieces.flatMap (shown p (order.reverse ++ done)) := by
  induction order generalizing done with
  | nil => rfl
  | cons x order ih =>
    rw [List.foldl_cons, replaceFrom_shown (clear x), ih, List.reverse_cons, List.append_assoc,
      List.singleton_append]

/-- Before anything is filled in, the pieces of a text make it up. -/
theorem flatMap_scan (skip : Nat) (cs : List Char) :
    (scan skip cs).flatMap (shown p []) = cs.drop skip := by
  induction cs generalizing skip with
  | nil => simp [scan]
  | cons c cs ih =>
    cases skip with
    | succ skip => exact ih skip
    | zero =>
      rw [scan]
      split
      · next x hx =>
        have hbegins : x.token <+: c :: cs := by
          simpa using List.find?_some hx
        rw [List.flatMap_cons, shown_of_not_mem List.not_mem_nil, ih]
        exact List.prefix_iff_eq_append.1 hbegins
      · rw [List.flatMap_cons, ih]
        rfl

theorem shown_all (h : ∀ x, x ∈ done) : shown p done = filled p := by
  funext piece
  cases piece with
  | char c => rfl
  | slot x => exact shown_of_mem (h x)

end Piece

/-! ## Lines -/

variable {p : Profile} {line : String}

theorem fillInTurn_eq_fillIn (clear : ∀ x : Placeholder, ¬x.token <:+: (fillIn p line).toList)
    {order : List Placeholder} (complete : ∀ x, x ∈ order) :
    fillInTurn order p line = fillIn p line := by
  rw [fillIn, String.toList_ofList] at clear
  have hfold := @Piece.foldl_replaceFrom_shown p (Piece.scan 0 line.toList) [] clear order
  rw [Piece.flatMap_scan, List.drop_zero, Piece.shown_all (by simpa using complete)] at hfold
  rw [fillInTurn, hfold, fillIn]

/-- Where neither the text between placeholders nor a value has an opening brace, no token shows in
the end. -/
theorem not_token_infix_fillIn (hline : .char '\x7b' ∉ Piece.scan 0 line.toList)
    (hvalue : ∀ x : Placeholder, '\x7b' ∉ (x.value p).toList) (x : Placeholder) :
    ¬x.token <:+: (fillIn p line).toList := by
  intro h
  have hmem : '\x7b' ∈ (fillIn p line).toList := h.subset List.mem_cons_self
  rw [fillIn, String.toList_ofList, List.mem_flatMap] at hmem
  obtain ⟨piece, hpiece, hmem⟩ := hmem
  cases piece with
  | char c => exact hline (List.mem_singleton.1 hmem ▸ hpiece)
  | slot y => exact hvalue y hmem

/-- **Interpolation fills in a line at once**, in whatever order the placeholders are taken, unless
a value brings a placeholder or makes one up with the text around it. -/
theorem interpolate_eq_fillIn (clear : ∀ x : Placeholder, ¬x.token <:+: (fillIn p line).toList) :
    interpolate p line = fillIn p line ∧
      ∀ order : List Placeholder, order.Perm inOrder →
        fillInTurn order p line = interpolate p line := by
  have hinterpolate : interpolate p line = fillIn p line := fillInTurn_eq_fillIn clear mem_inOrder
  refine ⟨hinterpolate, fun order horder => ?_⟩
  rw [hinterpolate]
  exact fillInTurn_eq_fillIn clear fun x => horder.mem_iff.2 (mem_inOrder x)

theorem interpolate_eq_fillIn_greeting :
    let p : Profile := { player := { name := "Rowan", className := "Paladin" } }
    let line := "Hail \x7bPlayerName\x7d, \x7bClass\x7d of level \x7bLevel\x7d"
    (∀ x : Placeholder, ¬x.token <:+: (fillIn p line).toList) ∧
      interpolate p line = fillIn p line ∧ fillIn p line = "Hail Rowan, Paladin of level 1" := by
  intro p line
  have clear : ∀ x : Placeholder, ¬x.token <:+: (fillIn p line).toList :=
    not_token_infix_fillIn (by decide) (by rintro ⟨⟩ <;> decide)
  exact ⟨clear, (interpolate_eq_fillIn clear).1, by decide⟩

/-- A name with a placeholder in it is filled in once more, braces around a placeholder make another
one with its value, and the order decides about both. -/
theorem interpolate_ne_fillIn :
    let p : Profile := { player := { name := "\x7bLevel\x7d", className := "Race" } }
    interpolate p "\x7bPlayerName\x7d" = "1" ∧
      fillIn p "\x7bPlayerName\x7d" = "\x7bLevel\x7d" ∧
      fillInTurn inOrder.reverse p "\x7bPlayerName\x7d" = "\x7bLevel\x7d" ∧
      interpolate p "\x7b\x7bClass\x7d\x7d" = "Human" ∧
      fillIn p "\x7b\x7bClass\x7d\x7d" = "\x7bRace\x7d" ∧
      fillInTurn inOrder.reverse p "\x7b\x7bClass\x7d\x7d" = "\x7bRace\x7d" := by
  decide

/-! ## What stands around placeholders -/

section
variable {order : List Placeholder} {before after : List Char}

theorem replaceFrom_token_around {x : Placeholder} {value : List Char} (hbefore : '\x7b' ∉ before)
    (hafter : '\x7d' ∉ after) (cs : List Char) :
    replaceFrom x.token value 0 (before ++ (cs ++ after)) =
      before ++ (replaceFrom x.token value 0 cs ++ after) := by
  have hnone (s : List Char) (hs : s ≠ []) (hsuffix : s <:+ before) :
      ¬x.token <+: s ++ (cs ++ after) :=
    not_prefix_of_not_mem hs fun hmem => hbefore (hsuffix.subset hmem)
  rw [replaceFrom_append hnone, token, replaceFrom_append_right hafter cs (Nat.zero_le _)]

theorem foldl_replaceFrom_around (hbefore : '\x7b' ∉ before) (hafter : '\x7d' ∉ after)
    (cs : List Char) :
    order.foldl (fun cs x => replaceFrom x.token (x.value p).toList 0 cs)
        (before ++ (cs ++ after)) =
      before ++
        (order.foldl (fun cs x => replaceFrom x.token (x.value p).toList 0 cs) cs ++ after) := by
  induction order generalizing cs with
  | nil => rfl
  | cons x order ih => rw [List.foldl_cons, replaceFrom_token_around hbefore hafter, ih]; rfl

end

theorem fillInTurn_around {before after : String} (hbefore : '\x7b' ∉ before.toList)
    (hafter : '\x7d' ∉ after.toList) (order : List Placeholder) (p : Profile) (line : String) :
    fillInTurn order p (before ++ line ++ after) = before ++ fillInTurn order p line ++ after := by
  rw [fillInTurn, String.toList_append, String.toList_append, List.append_assoc,
    foldl_replaceFrom_around hbefore hafter, String.ofList_append, String.ofList_append,
    String.ofList_toList, String.ofList_toList, String.append_assoc]
  rfl

theorem fillInTurn_of_clear {order : List Placeholder}
    (clear : ∀ x ∈ order, ¬x.token <:+: line.toList) : fillInTurn order p line = line := by
  induction order with
  | nil => exact String.ofList_toList
  | cons x order ih =>
    obtain ⟨hx, hrest⟩ := List.forall_mem_cons.1 clear
    rw [fillInTurn, List.foldl_cons, replaceFrom_of_not_infix hx]
    exact ih hrest

/-- **Interpolation leaves what stands around placeholders as it is**, whatever the values are: text
without an opening brace before a line, text without a closing brace after it, and all of a line in
which no placeholder stands, such as one without an opening brace. -/
theorem interpolate_frame (p : Profile) :
    (∀ before line after : String, '\x7b' ∉ before.toList → '\x7d' ∉ after.toList →
      interpolate p (before ++ line ++ after) = before ++ interpolate p line ++ after) ∧
    (∀ line : String, (∀ x : Placeholder, ¬x.token <:+: line.toList) → interpolate p line = line) ∧
    ∀ line : String, '\x7b' ∉ line.toList → interpolate p line = line := by
  have hclear (line : String) (clear : ∀ x : Placeholder, ¬x.token <:+: line.toList) :
      interpolate p line = line := fillInTurn_of_clear fun x _ => clear x
  refine ⟨fun before line after hbefore hafter => fillInTurn_around hbefore hafter inOrder p line,
    hclear, fun line hbrace => hclear line fun x htoken => ?_⟩
  exact hbrace (htoken.subset List.mem_cons_self)

/-- A value with a brace in it, which makes up a placeholder with the text behind. -/
theorem interpolate_frame_beggar :
    let p : Profile := { player := { name := "\x7bGol" } }
    '\x7b' ∉ "Alms\x7d ".toList ∧ '\x7d' ∉ " for \x7bPlayerName".toList ∧
      interpolate p ("Alms\x7d " ++ "\x7bPlayerName\x7dd\x7d" ++ " for \x7bPlayerName") =
        "Alms\x7d " ++ "0" ++ " for \x7bPlayerName" ∧
      (∀ x : Placeholder, ¬x.token <:+: "\x7bMood\x7d".toList) ∧
      interpolate p "\x7bMood\x7d" = "\x7bMood\x7d" ∧
      '\x7b' ∉ "Gold\x7d".toList ∧ interpolate p "Gold\x7d" = "Gold\x7d" := by
  intro p
  obtain ⟨around, clear, braceless⟩ := interpolate_frame p
  have hbefore : '\x7b' ∉ "Alms\x7d ".toList := by decide
  have hafter : '\x7d' ∉ " for \x7bPlayerName".toList := by decide
  have hclear (x : Placeholder) : ¬x.token <:+: "\x7bMood\x7d".toList := by
    intro htoken
    rcases List.infix_cons_iff.1 htoken with hbegins | hlater
    · revert hbegins
      cases x <;> decide
    · exact absurd (hlater.subset List.mem_cons_self) (by decide)
  have hbrace : '\x7b' ∉ "Gold\x7d".toList := by decide
  have hline : interpolate p "\x7bPlayerName\x7dd\x7d" = "0" := by decide
  have hframed := around _ "\x7bPlayerName\x7dd\x7d" _ hbefore hafter
  rw [hline] at hframed
  exact ⟨hbefore, hafter, hframed, hclear, clear _ hclear, hbrace, braceless _ hbrace⟩

end Dialogue
