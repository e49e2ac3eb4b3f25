import Dialogue.Json.Scan
import Dialogue.Json.Value

/-!
# Printed values are found again

The text of a value is scanned to the document that says the value (`scan_toText`). Each part is
taken together with what follows it: a text ends at its closing quote, a container at its bracket,
and a number where no more of it comes (`Ends`). The induction is on the value, with one unit of
fuel to a character of its text.
-/

namespace Dialogue.Json

/-! ## Numbers -/

/-- What may follow a value: nothing that would go on with a number. -/
def Ends (rest : List Char) : Prop :=
  ∀ c cs, rest = c :: cs → c.isDigit = false ∧ c ≠ '.' ∧ c ≠ 'e' ∧ c ≠ 'E'

theorem Ends.nil : Ends [] := by
  intro c cs h
  cases h

theorem takeWhile_isDigit {ds rest : List Char} (hds : ∀ c ∈ ds, c.isDigit) (hr : Ends rest) :
    (ds ++ rest).takeWhile Char.isDigit = ds := by
  rw [List.takeWhile_append_of_pos hds]
  cases rest with
  | nil => simp
  | cons c cs => simp [(hr c cs rfl).1]

theorem dropWhile_isDigit {ds rest : List Char} (hds : ∀ c ∈ ds, c.isDigit) (hr : Ends rest) :
    (ds ++ rest).dropWhile Char.isDigit = rest := by
  rw [List.dropWhile_append_of_pos hds]
  cases rest with
  | nil => simp
  | cons c cs => simp [(hr c cs rfl).1]

theorem scanExponent_of_ends {rest : List Char} (x : Numeral) (hr : Ends rest) :
    scanExponent x rest = x.found rest := by
  cases rest with
  | nil => rfl
  | cons c cs =>
    obtain ⟨-, -, he, hE⟩ := hr c cs rfl
    simp [scanExponent, he, hE]

/-- Digits that do not begin with an idle zero are all of a number. -/
theorem scanNumber_digits {ds rest : List Char} (negative : Bool) (hds : ∀ c ∈ ds, c.isDigit)
    (hne : ds ≠ []) (hz : ds.head? = some '0' → ds.length = 1) (hr : Ends rest) :
    scanNumber negative (ds ++ rest) = Numeral.found ⟨negative, ds, none, none⟩ rest := by
  have hlead : (ds.head? == some '0' && ds.length != 1) = false := by
    cases h : ds.head? == some '0' with
    | false => rfl
    | true => simp [hz (beq_iff_eq.1 h)]
  have hempty : ds.isEmpty = false := by simpa using hne
  simp only [scanNumber, takeWhile_isDigit hds hr, dropWhile_isDigit hds hr, hempty, hlead]
  cases rest with
  | nil => rfl
  | cons c cs =>
    obtain ⟨-, hpoint, -, -⟩ := hr c cs rfl
    simpa [hpoint] using scanExponent_of_ends _ hr

theorem isDigit_toDigits {n : Nat} : ∀ c ∈ Nat.toDigits 10 n, c.isDigit :=
  fun _ h => Nat.isDigit_of_mem_toDigits (by decide) (by decide) h

/-- Only zero is written with a zero in front. -/
theorem length_toDigits_of_zero {n : Nat} (h : (Nat.toDigits 10 n).head? = some '0') :
    (Nat.toDigits 10 n).length = 1 := by
  have key : ∀ n, 0 < n → (Nat.toDigits 10 n).head? ≠ some '0' := by
    intro n
    induction n using Nat.strongRecOn with
    | ind n ih =>
      intro hn
      rw [Nat.toDigits_eq_if (by decide)]
      split
      · simp; omega
      · rw [List.head?_append, Option.or_of_isSome (by simp [Nat.toDigits_ne_nil])]
        exact ih _ (by omega) (by omega)
  rcases Nat.eq_zero_or_pos n with rfl | hn
  · rfl
  · exact absurd h (key n hn)

theorem le_ofDigitChars {ds : List Char} {n : Nat} : n ≤ Nat.ofDigitChars 10 ds n := by
  rw [Nat.ofDigitChars_eq_ofDigitChars_zero]
  exact Nat.le_trans (Nat.le_mul_of_pos_left n (Nat.pow_pos (by decide))) (Nat.le_add_right ..)

/-- A significand takes in all digits of a number that fits. -/
theorem appendDigits_eq {ds : List Char} {n : Nat}
    (h : Nat.ofDigitChars 10 ds n ≤ maxSignificand) :
    appendDigits n ds = (Nat.ofDigitChars 10 ds n, 0) := by
  induction ds generalizing n with
  | nil => rfl
  | cons c ds ih =>
    have hstep : Nat.ofDigitChars 10 (c :: ds) n =
        Nat.ofDigitChars 10 ds (n * 10 + digitValue c) := by
      rw [Nat.ofDigitChars_cons, Nat.mul_comm, digitValue]
    rw [hstep] at h ⊢
    have hfits : n * 10 + digitValue c ≤ maxSignificand := Nat.le_trans le_ofDigitChars h
    simp only [appendDigits, if_pos hfits]
    exact ih h

/-- A whole number that fits a word of 64 bits, signed or unsigned. -/
def Fits (n : Int) : Prop := -9223372036854775808 ≤ n ∧ n ≤ 18446744073709551615

theorem scanNumber_toDigits {n : Nat} {rest : List Char} (negative : Bool) (hr : Ends rest) :
    scanNumber negative (Nat.toDigits 10 n ++ rest) =
      Numeral.found ⟨negative, Nat.toDigits 10 n, none, none⟩ rest :=
  scanNumber_digits negative isDigit_toDigits Nat.toDigits_ne_nil length_toDigits_of_zero hr

theorem appendDigits_toDigits {n : Nat} (hn : n ≤ maxSignificand) :
    appendDigits 0 (Nat.toDigits 10 n) = (n, 0) := by
  rw [appendDigits_eq (by rwa [Nat.ofDigitChars_ten_toDigits]), Nat.ofDigitChars_ten_toDigits]

theorem scanNumber_ofNat {n : Nat} {rest : List Char} (hn : Fits n) (hr : Ends rest) :
    scanNumber false (Nat.toDigits 10 n ++ rest) = (.number (.int n), some rest) := by
  have hdigits := appendDigits_toDigits (Int.ofNat_le.1 hn.2)
  rw [scanNumber_toDigits false hr]
  simp [Numeral.found, Numeral.value, hdigits]

theorem scanNumber_negSucc {n : Nat} {rest : List Char} (hn : Fits (.negSucc n))
    (hr : Ends rest) :
    scanNumber true (Nat.toDigits 10 (n + 1) ++ rest) =
      (.number (.int (.negSucc n)), some rest) := by
  have hle : n + 1 ≤ 9223372036854775808 := by
    have := hn.1
    omega
  have hdigits := appendDigits_toDigits (Nat.le_trans hle (by decide))
  rw [scanNumber_toDigits true hr]
  simp [Numeral.found, Numeral.value, hdigits, hle, Int.negSucc_eq]

/-! ## Texts -/

theorem hexDigit?_digitChar {n : Nat} (h : n < 16) : hexDigit? (Nat.digitChar n) = some n := by
  have : ∀ n < 16, hexDigit? (Nat.digitChar n) = some n := by decide
  exact this n h

/-- The four digits of a control character give its number back. -/
theorem hexValue?_control {c : Char} (h : c < ' ') :
    hexValue? '0' '0' (Nat.digitChar (c.toNat / 16)) (Nat.digitChar (c.toNat % 16)) =
      some c.toNat := by
  have hc : c.toNat < 32 := h
  have hzero : hexDigit? '0' = some 0 := rfl
  simp only [hexValue?, hzero, hexDigit?_digitChar (by omega : c.toNat / 16 < 16),
    hexDigit?_digitChar (by omega : c.toNat % 16 < 16)]
  show some (((0 * 16 + 0) * 16 + c.toNat / 16) * 16 + c.toNat % 16) = some c.toNat
  rw [Option.some_inj]
  omega

theorem Draft.pushUnit_control {d : Draft} {c : Char} (hd : d.high = none) (h : c < ' ') :
    d.pushUnit c.toNat = { d with chars := c :: d.chars } := by
  have hc : c.toNat < 32 := h
  have hhigh : isHighSurrogate c.toNat = false := by simp [isHighSurrogate]; omega
  have hlow : isLowSurrogate c.toNat = false := by simp [isLowSurrogate]; omega
  simp [Draft.pushUnit, hd, hhigh, hlow]

theorem Draft.push_eq {d : Draft} (c : Char) (hd : d.high = none) :
    d.push c = { d with chars := c :: d.chars } := by
  simp [Draft.push, Draft.settle, hd]

theorem scanQuotation_plain {d : Draft} {c : Char} {cs : List Char} (hquote : c ≠ '"')
    (hback : c ≠ '\\') (hc : ¬c < ' ') :
    scanQuotation d (c :: cs) = scanQuotation (d.push c) cs := by
  rw [scanQuotation.eq_def]
  split
  case h_7 h =>
    cases h
    rw [if_neg hc]
  all_goals simp_all

/-- A character is read back from its escape, whatever follows. -/
theorem scanQuotation_printChar {d : Draft} (hd : d.high = none) (c : Char) (cs : List Char) :
    scanQuotation d (printChar c ++ cs) = scanQuotation { d with chars := c :: d.chars } cs := by
  unfold printChar
  split
  case h_8 hquote hback _ _ _ _ _ =>
    split
    · next h =>
      simp only [List.cons_append, List.nil_append, scanQuotation, hexValue?_control h]
      rw [Draft.pushUnit_control hd h]
    · next h =>
      rw [List.singleton_append, scanQuotation_plain hquote hback h, Draft.push_eq c hd]
  all_goals simp [scanQuotation, unescape?, Draft.push_eq _ hd]

theorem scanQuotation_printChars {d : Draft} (hd : d.high = none) (l rest : List Char) :
    scanQuotation d (l.flatMap printChar ++ '"' :: rest) =
      ({ d with chars := l.reverse ++ d.chars }.close, some rest) := by
  induction l generalizing d with
  | nil => rfl
  | cons c l ih =>
    rw [List.flatMap_cons, List.append_assoc, scanQuotation_printChar hd, ih (by exact hd)]
    simp

/-- A text between quotes is read back, whatever follows. -/
theorem scanQuotation_text (s : String) (rest : List Char) :
    scanQuotation {} (s.toList.flatMap printChar ++ '"' :: rest) = (.text s, some rest) := by
  rw [scanQuotation_printChars rfl]
  simp [Draft.close, Draft.settle]

/-! ## Values -/

/-- Every number in the value is one that a document can hold. -/
inductive Sound : Json → Prop
  | null : Sound .null
  | bool {b} : Sound (.bool b)
  | int {n} : Fits n → Sound (.int n)
  | text {s} : Sound (.text s)
  | seq {items} : (∀ v ∈ items, Sound v) → Sound (.seq items)
  | map {members} : (∀ m ∈ members, Sound m.2) → Sound (.map members)

theorem skipSpaces_newline (n : Nat) (cs : List Char) :
    skipSpaces (newline n ++ cs) = skipSpaces cs := by
  have hspace : ∀ c ∈ newline n, isSpace c := by
    intro c hc
    rcases List.mem_cons.1 hc with rfl | hc
    · rfl
    · rw [(List.mem_replicate.1 hc).2]
      rfl
  exact List.dropWhile_append_of_pos hspace

theorem skipSpaces_cons {c : Char} (h : isSpace c = false) (cs : List Char) :
    skipSpaces (c :: cs) = c :: cs := by
  simp [skipSpaces, h]

theorem scanValue_newline (fuel level n : Nat) (cs : List Char) :
    scanValue fuel level (newline n ++ cs) = scanValue fuel level cs := by
  cases fuel with
  | zero => rfl
  | succ fuel => simp only [scanValue, skipSpaces_newline]

theorem scanValue_space (fuel level : Nat) (cs : List Char) :
    scanValue fuel level (' ' :: cs) = scanValue fuel level cs := by
  cases fuel with
  | zero => rfl
  | succ fuel => rfl

theorem isSpace_of_isDigit {c : Char} (h : c.isDigit) : isSpace c = false := by
  cases hs : isSpace c with
  | false => rfl
  | true =>
    simp only [isSpace, Bool.or_eq_true, beq_iff_eq] at hs
    rcases hs with ((rfl | rfl) | rfl) | rfl <;> cases h

theorem scanValue_digit {c : Char} (h : c.isDigit) (fuel level : Nat) (cs : List Char) :
    scanValue (fuel + 1) level (c :: cs) = scanNumber false (c :: cs) := by
  rw [scanValue, skipSpaces_cons (isSpace_of_isDigit h)]
  split
  case h_9 heq =>
    cases heq
    rw [if_pos h]
  all_goals
    rename_i heq
    cases heq
    first | done | cases h

theorem print_ofNat (indent n : Nat) :
    (Json.int (.ofNat n)).print indent = Nat.toDigits 10 n := Nat.toList_repr

theorem print_negSucc (indent n : Nat) :
    (Json.int (.negSucc n)).print indent = '-' :: Nat.toDigits 10 (n + 1) := by
  show ("-" ++ Nat.repr (n + 1)).toList = _
  rw [String.toList_append, Nat.toList_repr]
  rfl

theorem exists_toDigits (n : Nat) : ∃ c cs, Nat.toDigits 10 n = c :: cs ∧ c.isDigit := by
  obtain ⟨c, cs, h⟩ := List.exists_cons_of_ne_nil (Nat.toDigits_ne_nil (n := n) (b := 10))
  exact ⟨c, cs, h, isDigit_toDigits c (h ▸ List.mem_cons_self)⟩

/-- The text of a value begins with a mark that belongs to the value. -/
theorem exists_print (v : Json) (indent : Nat) :
    ∃ c cs, v.print indent = c :: cs ∧ isSpace c = false ∧ c ≠ ']' := by
  match v with
  | .null => exact ⟨_, _, rfl, rfl, by decide⟩
  | .bool true => exact ⟨_, _, rfl, rfl, by decide⟩
  | .bool false => exact ⟨_, _, rfl, rfl, by decide⟩
  | .int (.ofNat n) =>
    obtain ⟨c, cs, h, hc⟩ := exists_toDigits n
    refine ⟨c, cs, by rw [print_ofNat, h], isSpace_of_isDigit hc, ?_⟩
    rintro rfl
    cases hc
  | .int (.negSucc n) => exact ⟨_, _, print_negSucc indent n, rfl, by decide⟩
  | .text s => exact ⟨_, _, rfl, rfl, by decide⟩
  | .seq [] => exact ⟨_, _, rfl, rfl, by decide⟩
  | .seq (v :: vs) => exact ⟨_, _, rfl, rfl, by decide⟩
  | .map [] => exact ⟨_, _, rfl, rfl, by decide⟩
  | .map (m :: ms) => exact ⟨_, _, rfl, rfl, by decide⟩

theorem scanValue_int {n : Int} {rest : List Char} (hn : Fits n) (hr : Ends rest)
    (fuel level indent : Nat) :
    scanValue (fuel + 1) level ((Json.int n).print indent ++ rest) =
      (.number (.int n), some rest) := by
  cases n with
  | ofNat n =>
    obtain ⟨c, cs, h, hc⟩ := exists_toDigits n
    rw [print_ofNat, h, List.cons_append, scanValue_digit hc, ← List.cons_append, ← h]
    exact scanNumber_ofNat hn hr
  | negSucc n =>
    rw [print_negSucc]
    exact scanNumber_negSucc hn hr

theorem Ends.cons {c : Char} (h : c.isDigit = false ∧ c ≠ '.' ∧ c ≠ 'e' ∧ c ≠ 'E')
    (cs : List Char) : Ends (c :: cs) := by
  intro c' cs' heq
  cases heq
  exact h

theorem Ends.newline (n : Nat) (cs : List Char) : Ends (newline n ++ cs) := .cons (by decide) _

theorem Ends.items (indent below : Nat) (vs : List Json) (rest : List Char) :
    Ends (printItems indent vs ++ (Json.newline below ++ rest)) := by
  cases vs with
  | nil => exact .newline below rest
  | cons v vs => exact .cons (by decide) _

theorem Ends.members (indent below : Nat) (ms : List (String × Json)) (rest : List Char) :
    Ends (printMembers indent ms ++ (Json.newline below ++ rest)) := by
  cases ms with
  | nil => exact .newline below rest
  | cons m ms => exact .cons (by decide) _

/-- Items after the one that comes next: behind an opening bracket there is no comma. -/
theorem scanItems_item {v : Json} {d : Doc} {fuel level : Nat} {more : List Char} (first : Bool)
    (indent : Nat)
    (h : scanValue fuel level (v.print indent ++ more) = (d, some more)) :
    scanItems (fuel + 1) level first
      ((if first then [] else [',']) ++ (newline indent ++ (v.print indent ++ more))) =
      (d :: (scanItems fuel level false more).1, (scanItems fuel level false more).2) := by
  cases first with
  | true =>
    obtain ⟨c, cs, hv, hspace, hclose⟩ := exists_print v indent
    rw [hv, List.cons_append] at h
    simp only [if_pos, List.nil_append, scanItems, skipSpaces_newline, hv, List.cons_append,
      skipSpaces_cons hspace]
    simp [h]
  | false =>
    rw [← scanValue_newline fuel level indent] at h
    show scanItems (fuel + 1) level false (',' :: (newline indent ++ (v.print indent ++ more))) = _
    rw [scanItems, skipSpaces_cons (by rfl)]
    simp [h]

theorem scanKey_newline (indent : Nat) (cs : List Char) :
    scanKey (newline indent ++ cs) = scanKey cs := by
  simp only [scanKey, skipSpaces_newline]

theorem printText_append (s : String) (cs : List Char) :
    printText s ++ cs = '"' :: (s.toList.flatMap printChar ++ '"' :: cs) := by
  simp [printText]

theorem scanKey_text (s : String) (cs : List Char) :
    scanKey (printText s ++ cs) = (.text s, some cs) := by
  rw [printText_append, scanKey, skipSpaces_cons (by rfl)]
  simp only [scanQuotation_text, Quotation.key]

/-- Members after the one that comes next: behind an opening brace there is no comma. -/
theorem scanMembers_member {v : Json} {d : Doc} {fuel level : Nat} {more : List Char}
    (first : Bool) (k : String) (indent : Nat)
    (h : scanValue fuel level (v.print indent ++ more) = (d, some more)) :
    scanMembers (fuel + 2) level first
      ((if first then [] else [',']) ++
        (newline indent ++ (printText k ++ ':' :: ' ' :: (v.print indent ++ more)))) =
      ((.text k, d) :: (scanMembers (fuel + 1) level false more).1,
        (scanMembers (fuel + 1) level false more).2) := by
  have hcolon : scanColon (fuel + 1) level (':' :: ' ' :: (v.print indent ++ more)) =
      (d, some more) := by
    rw [← scanValue_space] at h
    exact h
  have hkey := scanKey_text k (':' :: ' ' :: (v.print indent ++ more))
  cases first with
  | true =>
    rw [if_pos rfl, List.nil_append, scanMembers, skipSpaces_newline]
    rw [printText_append] at hkey ⊢
    rw [skipSpaces_cons (by rfl)]
    simp [hkey, hcolon]
  | false =>
    rw [← scanKey_newline indent] at hkey
    show scanMembers (fuel + 2) level false (',' :: _) = _
    rw [scanMembers, skipSpaces_cons (by rfl)]
    simp [hkey, hcolon]

mutual

/-- A written value can be skipped, however deep it is. -/
theorem skippingFlaw_docAt (level : Nat) (v : Json) : (v.docAt level).skippingFlaw = none := by
  match v with
  | .null | .bool _ | .int _ | .text _ => rfl
  | .seq items =>
    by_cases h : level < maxDepth
    · simp [docAt, h, Doc.skippingFlaw, itemsSkippingFlaw_itemDocs (level + 1) items]
    · simp [docAt, h, Doc.skippingFlaw]
  | .map members =>
    by_cases h : level < maxDepth
    · simp [docAt, h, Doc.skippingFlaw, membersSkippingFlaw_memberDocs (level + 1) members]
    · simp [docAt, h, Doc.skippingFlaw]

theorem itemsSkippingFlaw_itemDocs (level : Nat) (items : List Json) :
    Doc.itemsSkippingFlaw (itemDocs level items) = none := by
  match items with
  | [] => rfl
  | v :: vs =>
    simp [itemDocs, Doc.itemsSkippingFlaw, skippingFlaw_docAt level v,
      itemsSkippingFlaw_itemDocs level vs]

theorem membersSkippingFlaw_memberDocs (level : Nat) (members : List (String × Json)) :
    Doc.membersSkippingFlaw (memberDocs level members) = none := by
  match members with
  | [] => rfl
  | (k, v) :: ms =>
    simp [memberDocs, Doc.membersSkippingFlaw, Key.skippingFlaw, skippingFlaw_docAt level v,
      membersSkippingFlaw_memberDocs level ms]

end

theorem print_seq (indent : Nat) (v : Json) (vs : List Json) (rest : List Char) :
    (Json.seq (v :: vs)).print indent ++ rest =
      '[' :: (newline (indent + 1) ++ (v.print (indent + 1) ++
        (printItems (indent + 1) vs ++ (newline indent ++ ']' :: rest)))) := by
  simp [print]

theorem print_map (indent : Nat) (k : String) (v : Json) (ms : List (String × Json))
    (rest : List Char) :
    (Json.map ((k, v) :: ms)).print indent ++ rest =
      '{' :: (newline (indent + 1) ++ (printText k ++ ':' :: ' ' :: (v.print (indent + 1) ++
        (printMembers (indent + 1) ms ++ (newline indent ++ '}' :: rest))))) := by
  simp [print]

theorem printItems_cons (indent : Nat) (v : Json) (vs : List Json) (rest : List Char) :
    printItems indent (v :: vs) ++ rest =
      ',' :: (newline indent ++ (v.print indent ++ (printItems indent vs ++ rest))) := by
  simp [printItems]

theorem printMembers_cons (indent : Nat) (k : String) (v : Json) (ms : List (String × Json))
    (rest : List Char) :
    printMembers indent ((k, v) :: ms) ++ rest =
      ',' :: (newline indent ++ (printText k ++ ':' :: ' ' :: (v.print indent ++
        (printMembers indent ms ++ rest)))) := by
  simp [printMembers]

theorem scanValue_seq {items : List Json} {fuel level : Nat} {cs rest : List Char}
    (h : scanItems fuel (level + 1) true cs = (itemDocs (level + 1) items, none, some rest)) :
    scanValue (fuel + 1) level ('[' :: cs) = ((Json.seq items).docAt level, some rest) := by
  rw [scanValue, skipSpaces_cons (by rfl)]
  simp only [h, docAt, itemsSkippingFlaw_itemDocs, Option.none_or]

theorem scanValue_map {members : List (String × Json)} {fuel level : Nat} {cs rest : List Char}
    (h : scanMembers fuel (level + 1) true cs =
      (memberDocs (level + 1) members, none, some rest)) :
    scanValue (fuel + 1) level ('{' :: cs) = ((Json.map members).docAt level, some rest) := by
  rw [scanValue, skipSpaces_cons (by rfl)]
  simp only [h, docAt, membersSkippingFlaw_memberDocs, Option.none_or]

mutual

/-- The text of a value is found to say the value, at any level and whatever follows. One fuel to a
character of the text is enough. -/
theorem scanValue_print {v : Json} {rest : List Char} (hv : v.Sound) (hr : Ends rest)
    (fuel level indent : Nat) (hf : (v.print indent).length ≤ fuel) :
    scanValue fuel level (v.print indent ++ rest) = (v.docAt level, some rest) := by
  obtain ⟨fuel, rfl⟩ : ∃ n, fuel = n + 1 := by
    obtain ⟨c, cs, h, -⟩ := exists_print v indent
    rw [h, List.length_cons] at hf
    exact ⟨fuel - 1, by omega⟩
  match v with
  | .null | .bool true | .bool false => rfl
  | .int n =>
    cases hv with
    | int hn => exact scanValue_int hn hr fuel level indent
  | .text s =>
    show scanValue (fuel + 1) level (printText s ++ rest) = _
    rw [printText_append, scanValue, skipSpaces_cons (by rfl)]
    simp only [scanQuotation_text, Quotation.doc, docAt]
  | .seq [] =>
    obtain ⟨fuel, rfl⟩ : ∃ n, fuel = n + 1 := ⟨fuel - 1, by simp [print] at hf; omega⟩
    exact scanValue_seq rfl
  | .seq (v :: vs) =>
    cases hv with | seq hvs =>
    have hlen :
        (v.print (indent + 1)).length + (printItems (indent + 1) vs).length + 2 ≤ fuel := by
      simp [print, newline] at hf
      omega
    obtain ⟨fuel, rfl⟩ : ∃ n, fuel = n + 1 := ⟨fuel - 1, by omega⟩
    have hfirst := scanValue_print (hvs v List.mem_cons_self)
      (.items (indent + 1) indent vs (']' :: rest)) fuel (level + 1) (indent + 1) (by omega)
    have hitems := scanItems_item true (indent + 1) hfirst
    rw [scanItems_print (fun w hw => hvs w (List.mem_cons_of_mem _ hw)) _ _ _ _ (by omega)]
      at hitems
    rw [print_seq]
    exact scanValue_seq hitems
  | .map [] =>
    obtain ⟨fuel, rfl⟩ : ∃ n, fuel = n + 1 := ⟨fuel - 1, by simp [print] at hf; omega⟩
    exact scanValue_map rfl
  | .map ((k, v) :: ms) =>
    cases hv with | map hms =>
    have hlen :
        (v.print (indent + 1)).length + (printMembers (indent + 1) ms).length + 2 ≤ fuel := by
      simp [print, newline] at hf
      omega
    obtain ⟨fuel, rfl⟩ : ∃ n, fuel = n + 2 := ⟨fuel - 2, by omega⟩
    have hfirst := scanValue_print (v := v) (hms (k, v) List.mem_cons_self)
      (.members (indent + 1) indent ms ('}' :: rest)) fuel (level + 1) (indent + 1) (by omega)
    have hmembers := scanMembers_member true k (indent + 1) hfirst
    rw [scanMembers_print (fun m hm => hms m (List.mem_cons_of_mem _ hm)) _ _ _ _ (by omega)]
      at hmembers
    rw [print_map]
    exact scanValue_map hmembers

theorem scanItems_print {vs : List Json} {rest : List Char} (hvs : ∀ v ∈ vs, v.Sound)
    (fuel level indent below : Nat) (hf : (printItems indent vs).length < fuel) :
    scanItems fuel level false (printItems indent vs ++ (newline below ++ ']' :: rest)) =
      (itemDocs level vs, none, some rest) := by
  obtain ⟨fuel, rfl⟩ : ∃ n, fuel = n + 1 := ⟨fuel - 1, by omega⟩
  match vs with
  | [] =>
    show scanItems (fuel + 1) level false (newline below ++ ']' :: rest) = _
    rw [scanItems, skipSpaces_newline, skipSpaces_cons (by rfl)]
    rfl
  | v :: vs =>
    have hlen : (v.print indent).length + (printItems indent vs).length < fuel := by
      simp [printItems, newline] at hf
      omega
    have hnext := scanValue_print (hvs v List.mem_cons_self)
      (.items indent below vs (']' :: rest)) fuel level indent (by omega)
    have hitems := scanItems_item false indent hnext
    rw [scanItems_print (fun w hw => hvs w (List.mem_cons_of_mem _ hw)) _ _ _ _ (by omega)]
      at hitems
    rw [printItems_cons]
    exact hitems

theorem scanMembers_print {ms : List (String × Json)} {rest : List Char}
    (hms : ∀ m ∈ ms, m.2.Sound) (fuel level indent below : Nat)
    (hf : (printMembers indent ms).length < fuel) :
    scanMembers fuel level false (printMembers indent ms ++ (newline below ++ '}' :: rest)) =
      (memberDocs level ms, none, some rest) := by
  match ms with
  | [] =>
    obtain ⟨fuel, rfl⟩ : ∃ n, fuel = n + 1 := ⟨fuel - 1, by omega⟩
    show scanMembers (fuel + 1) level false (newline below ++ '}' :: rest) = _
    rw [scanMembers, skipSpaces_newline, skipSpaces_cons (by rfl)]
    rfl
  | (k, v) :: ms =>
    have hlen : (v.print indent).length + (printMembers indent ms).length + 2 ≤ fuel := by
      simp [printMembers, newline] at hf
      omega
    obtain ⟨fuel, rfl⟩ : ∃ n, fuel = n + 2 := ⟨fuel - 2, by omega⟩
    have hnext := scanValue_print (v := v) (hms (k, v) List.mem_cons_self)
      (.members indent below ms ('}' :: rest)) fuel level indent (by omega)
    have hmembers := scanMembers_member false k indent hnext
    rw [scanMembers_print (fun m hm => hms m (List.mem_cons_of_mem _ hm)) _ _ _ _ (by omega)]
      at hmembers
    rw [printMembers_cons]
    exact hmembers

end

/-- The text of a value says that value and nothing more. -/
theorem scan_toText {v : Json} (hv : v.Sound) : scan v.toText = (v.doc, some []) := by
  have h := scanValue_print hv .nil (4 * (v.print 0).length + 4) 0 0 (by omega)
  rw [List.append_nil] at h
  rw [scan, toText, String.toList_ofList]
  exact h

end Dialogue.Json
