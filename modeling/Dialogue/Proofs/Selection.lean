import Dialogue.Proofs.Machine
import Mathlib.Data.List.DropRight

/-!
# What is selected

What an input selects, said without the reader. `Text.Strips` is the word that white space stands
around, and `Selection.Spells` the number that digits stand for; trimming finds the one
(`Text.strips_iff`) and `Selection.readNumber?` the other, unless it is too large
(`Selection.readNumber?_eq_some_iff`). So an input is silence, the number of a choice, or nothing
(`Selection.parse_exact`).
-/

namespace Dialogue

/-! ## White space -/

namespace Text
variable {cs word : List Char}

/-- `Strips cs word`: white space stands around the word in the text, and none at its ends. -/
structure Strips (cs word : List Char) : Prop where
  around : ∃ front back, cs = front ++ word ++ back ∧ (∀ c ∈ front, isBlank c = true) ∧
    ∀ c ∈ back, isBlank c = true
  first : ∀ c ∈ word.head?, isBlank c = false
  last : ∀ c ∈ word.getLast?, isBlank c = false

theorem strips_self (first : ∀ c ∈ word.head?, isBlank c = false)
    (last : ∀ c ∈ word.getLast?, isBlank c = false) : Strips word word :=
  ⟨⟨[], [], by simp, nofun, nofun⟩, first, last⟩

theorem head?_dropWhile {p : Char → Bool} {c : Char} (h : c ∈ (cs.dropWhile p).head?) :
    p c = false := by
  have hnot := List.head?_dropWhile_not p cs
  rw [Option.mem_def.1 h] at hnot
  exact hnot

theorem dropWhile_append_eq {p : Char → Bool} {front : List Char}
    (hfront : ∀ c ∈ front, p c = true) (hword : ∀ c ∈ word.head?, p c = false) :
    (front ++ word).dropWhile p = word := by
  rw [List.dropWhile_append_of_pos hfront]
  cases word with
  | nil => rfl
  | cons c word =>
    have hc : p c = false := hword c rfl
    exact List.dropWhile_cons_of_neg (by simp [hc])

theorem strips_trimChars (cs : List Char) : Strips cs (trimChars cs) := by
  have hback : trimChars cs ++ (cs.dropWhile isBlank).rtakeWhile isBlank = cs.dropWhile isBlank :=
    List.rdropWhile_append_rtakeWhile ..
  constructor
  · refine ⟨cs.takeWhile isBlank, (cs.dropWhile isBlank).rtakeWhile isBlank, ?_,
      fun c => List.mem_takeWhile_imp, fun c => List.mem_rtakeWhile_imp⟩
    rw [List.append_assoc, hback, List.takeWhile_append_dropWhile]
  · intro c hc
    have hhead : c ∈ (cs.dropWhile isBlank).head? := by
      rw [← hback, List.head?_append, Option.mem_def.1 hc]
      rfl
    exact head?_dropWhile hhead
  · intro c hc
    rw [trimChars, List.getLast?_reverse] at hc
    exact head?_dropWhile hc

theorem Strips.trimChars_eq (h : Strips cs word) : trimChars cs = word := by
  obtain ⟨⟨front, back, rfl, hfront, hback⟩, first, last⟩ := h
  have hend : ((word ++ back).reverse.dropWhile isBlank).reverse = word := by
    rw [List.reverse_append, dropWhile_append_eq (by simpa using hback) (by simpa using last),
      List.reverse_reverse]
  rw [trimChars, List.append_assoc]
  cases word with
  | nil =>
    -- all is white space, and gone from the front already
    rw [List.nil_append, List.dropWhile_append_of_pos hfront, List.dropWhile_eq_nil_iff.2 hback]
    rfl
  | cons c word => rw [dropWhile_append_eq hfront (by simpa using first), hend]

theorem strips_iff : Strips cs word ↔ trimChars cs = word :=
  ⟨Strips.trimChars_eq, fun h => h ▸ strips_trimChars cs⟩

end Text

/-! ## Numbers -/

namespace Selection
variable {digits word : List Char} {n : Nat}

/-- `Spells digits n`: digits of ASCII, one or more, stand for `n` in the system of tens. -/
inductive Spells : List Char → Nat → Prop
  | digit {d : Nat} (h : d < 10) : Spells [d.digitChar] d
  | append {digits : List Char} {n d : Nat} (front : Spells digits n) (h : d < 10) :
    Spells (digits ++ [d.digitChar]) (10 * n + d)

theorem decimalValue_append (digits : List Char) {d : Nat} (h : d < 10) :
    decimalValue (digits ++ [d.digitChar]) = 10 * decimalValue digits + d := by
  have hd : d.digitChar.toNat - '0'.toNat = d := Nat.toNat_digitChar_sub_48_of_lt_ten h
  rw [decimalValue, List.foldl_append, List.foldl_cons, List.foldl_nil, hd, Nat.mul_comm]
  rfl

theorem exists_digitChar {c : Char} (h : c.isDigit = true) : ∃ d < 10, c = d.digitChar := by
  have hrange : 48 ≤ c.toNat ∧ c.toNat ≤ 57 := Char.isDigit_iff_toNat.1 h
  have hd : c.toNat - 48 < 10 := by omega
  refine ⟨c.toNat - 48, hd, Char.toNat_inj.1 ?_⟩
  rw [Nat.toNat_digitChar_of_lt_ten hd]
  omega

theorem spells_iff : Spells digits n ↔
    digits ≠ [] ∧ (∀ c ∈ digits, c.isDigit = true) ∧ decimalValue digits = n := by
  constructor
  · intro h
    induction h with
    | digit h =>
      refine ⟨List.cons_ne_nil _ _, ?_, ?_⟩
      · simp [h]
      · exact (decimalValue_append [] h).trans (Nat.zero_add _)
    | append _ h ih =>
      obtain ⟨-, hall, rfl⟩ := ih
      refine ⟨by simp, ?_, decimalValue_append _ h⟩
      intro c hc
      rcases List.mem_append.1 hc with hc | hc
      · exact hall c hc
      · simp [List.mem_singleton.1 hc, h]
  · rintro ⟨hne, hall, rfl⟩
    induction digits using List.reverseRecOn with
    | nil => exact absurd rfl hne
    | append_singleton front c ih =>
      obtain ⟨hfront, hc⟩ := List.forall_mem_append.1 hall
      obtain ⟨d, hd, rfl⟩ := exists_digitChar (hc c (List.mem_singleton_self c))
      rw [decimalValue_append front hd]
      by_cases hnil : front = []
      · subst hnil
        have hvalue : 10 * decimalValue [] + d = d := Nat.zero_add d
        exact hvalue.symm ▸ .digit hd
      · exact .append (ih hnil hfront) hd

theorem Spells.zero (h : Spells digits n) : Spells ('0' :: digits) n := by
  induction h with
  | @digit d h =>
    have hspells : Spells ['0', d.digitChar] (10 * 0 + d) :=
      .append (.digit (d := 0) (by decide)) h
    rwa [Nat.mul_zero, Nat.zero_add] at hspells
  | append _ h ih => exact .append ih h

theorem spells_toDigits (n : Nat) : Spells (Nat.toDigits 10 n) n := by
  induction n using Nat.strongRecOn with
  | ind n ih =>
    rw [Nat.toDigits_eq_if (by decide)]
    split
    · next h => exact .digit h
    · next h =>
      have hspells := (ih (n / 10) (by omega)).append (Nat.mod_lt n (by decide))
      rwa [Nat.div_add_mod] at hspells

/-- Digits stand for a number if and only if they are those of the number, after any number of
zeros. -/
theorem spells_iff_zeros : Spells digits n ↔
    ∃ zeros, digits = List.replicate zeros '0' ++ Nat.toDigits 10 n := by
  constructor
  · intro h
    induction h with
    | digit h => exact ⟨0, (Nat.toDigits_of_lt_base h).symm⟩
    | @append digits n d front h ih =>
      obtain ⟨zeros, rfl⟩ := ih
      rcases Nat.eq_zero_or_pos n with rfl | hpos
      · refine ⟨zeros + 1, ?_⟩
        rw [Nat.mul_zero, Nat.zero_add, Nat.toDigits_of_lt_base h,
          Nat.toDigits_of_lt_base (by decide), List.replicate_succ']
        rfl
      · refine ⟨zeros, ?_⟩
        rw [List.append_assoc, ← Nat.toDigits_of_lt_base h,
          Nat.toDigits_append_toDigits (by decide) hpos h]
  · rintro ⟨zeros, rfl⟩
    induction zeros with
    | zero => exact spells_toDigits n
    | succ zeros ih => exact ih.zero

theorem Spells.isBlank_eq_false (h : Spells digits n) : ∀ c ∈ digits, Text.isBlank c = false := by
  intro c hc
  have hrange : 48 ≤ c.toNat ∧ c.toNat ≤ 57 :=
    Char.isDigit_iff_toNat.1 ((spells_iff.1 h).2.1 c hc)
  simp only [Text.isBlank, Bool.or_eq_false_iff, Bool.and_eq_false_iff, decide_eq_false_iff_not,
    beq_eq_false_iff_ne]
  omega

/-- `Numeral word n`: the word is digits for `n`, which a plus may precede. -/
def Numeral (word : List Char) (n : Nat) : Prop :=
  Spells word n ∨ ∃ digits, word = '+' :: digits ∧ Spells digits n

theorem numeral_iff : Numeral word n ↔
    Spells (if word.head? = some '+' then word.tail else word) n := by
  split
  · next hplus =>
    obtain ⟨digits, rfl⟩ := List.head?_eq_some_iff.1 hplus
    constructor
    · rintro (h | ⟨digits', heq, h⟩)
      · exact absurd ((spells_iff.1 h).2.1 '+' List.mem_cons_self) (by decide)
      · cases heq
        exact h
    · exact fun h => .inr ⟨digits, rfl, h⟩
  · next hplus =>
    refine ⟨?_, .inl⟩
    rintro (h | ⟨digits, rfl, -⟩)
    · exact h
    · exact absurd rfl hplus

/-- Numbers are read for what they are, up to the largest one of 64 bits. -/
theorem readNumber?_eq_some_iff :
    readNumber? word = some n ↔ Numeral word n ∧ n < 18446744073709551616 := by
  rw [numeral_iff, spells_iff, readNumber?]
  generalize (if word.head? = some '+' then word.tail else word) = digits
  simp only [Option.ite_none_right_eq_some, Bool.and_eq_true, Bool.not_eq_true',
    List.isEmpty_eq_false_iff, List.all_eq_true, decide_eq_true_eq, Option.some.injEq]
  constructor
  · rintro ⟨⟨⟨hne, hall⟩, hle⟩, rfl⟩
    exact ⟨⟨hne, hall, rfl⟩, by omega⟩
  · rintro ⟨⟨hne, hall, rfl⟩, hlt⟩
    exact ⟨⟨⟨hne, hall⟩, by omega⟩, rfl⟩

/-! ## Selections -/

/-- The input, white space around it aside, is a number `k` of 64 bits that one of `count` choices
has. -/
structure Chooses (count : Nat) (input : String) (k : Nat) : Prop where
  one_le : 1 ≤ k
  le_count : k ≤ count
  lt_size : k < 18446744073709551616
  word : ∃ word, Text.Strips input.toList word ∧ Numeral word k

theorem picks_iff {count : Nat} {input : String} {i : Nat} :
    Machine.Picks count input i ↔ Chooses count input (i + 1) := by
  rw [Machine.Picks, readNumber?_eq_some_iff]
  constructor
  · rintro ⟨hlt, hnumeral, hsize⟩
    exact ⟨by omega, hlt, hsize, _, Text.strips_trimChars _, hnumeral⟩
  · rintro ⟨-, hlt, hsize, word, hstrips, hnumeral⟩
    obtain rfl := hstrips.trimChars_eq
    exact ⟨hlt, hnumeral, hsize⟩

theorem parse_eq_pick_iff {count : Nat} {input : String} {k : Nat} :
    (∃ i : Fin count, i.val + 1 = k ∧ parse count input = some (.pick i)) ↔
      Chooses count input k := by
  constructor
  · rintro ⟨i, rfl, h⟩
    exact picks_iff.1 (parse_eq_pick.1 h)
  · intro h
    have hlt : k - 1 < count := Nat.lt_of_lt_of_le (Nat.sub_one_lt_of_lt h.one_le) h.le_count
    have hsucc : k - 1 + 1 = k := Nat.sub_add_cancel h.one_le
    exact ⟨⟨k - 1, hlt⟩, hsucc, parse_eq_pick.2 (picks_iff.2 (hsucc.symm ▸ h))⟩

theorem parse_eq_silence_iff {count : Nat} {input : String} :
    parse count input = some .silence ↔ Text.Strips input.toList ['0'] := by
  rw [parse_eq_silence, Text.strips_iff, Machine.Silences]

/-- The number that is shown before a choice picks it, also with zeros before the number. -/
theorem parse_shown {count : Nat} (i : Fin count) (small : i.val + 1 < 18446744073709551616)
    (zeros : Nat) :
    parse count (String.ofList (List.replicate zeros '0' ++ Nat.toDigits 10 (i + 1))) =
      some (.pick i) := by
  have hspells : Spells (List.replicate zeros '0' ++ Nat.toDigits 10 (i + 1)) (i + 1) :=
    spells_iff_zeros.2 ⟨zeros, rfl⟩
  refine parse_eq_pick.2 (picks_iff.2 ⟨Nat.le_add_left .., i.isLt, small, _, ?_, .inl hspells⟩)
  have hblank := hspells.isBlank_eq_false
  rw [String.toList_ofList]
  exact Text.strips_self (fun c hc => hblank c (List.mem_of_mem_head? hc))
    fun c hc => hblank c (List.mem_of_getLast? hc)

/-- **Selections are read exactly.** White space around it aside, an input is silence if and only if
it is a bare zero, and it picks the `k`-th choice if and only if it is digits for `k`, with zeros or
a plus before them perhaps, and there is such a choice; no other input selects anything. Numbers
that do not fit into 64 bits are none, however many digits they have. -/
theorem parse_exact (count : Nat) (input : String) :
    (parse count input = some .silence ↔ Text.Strips input.toList ['0']) ∧
    (∀ k : Nat, (∃ i : Fin count, i.val + 1 = k ∧ parse count input = some (.pick i)) ↔
      Chooses count input k) ∧
    (parse count input = none ↔
      ¬Text.Strips input.toList ['0'] ∧ ∀ k, ¬Chooses count input k) := by
  refine ⟨parse_eq_silence_iff, fun k => parse_eq_pick_iff, ?_⟩
  rw [← parse_eq_silence_iff]
  simp only [← parse_eq_pick_iff]
  cases parse count input with
  | none => simp
  | some selection => cases selection <;> simp

-- zeros, signs, two words, and digits that are not of ASCII
example : ["00", "+0", "+", "-1", "1 2", "\u0661"].map (parse 9) = List.replicate 6 none := by
  decide

end Selection

end Dialogue
