import Dialogue.Sorted
import Mathlib.Data.List.Basic
import Mathlib.Order.Basic

/-!
# Texts and their bytes

A text is kept as the bytes of its characters in UTF-8. A line feed is a byte of its own there, so
that bytes can be cut at line feeds before they are read as text (`fromUTF8?_concat`), and the order
of texts by their characters is that by their bytes (`lt_iff_bytes_lt`).
-/

namespace Dialogue.Text

/-- The bytes of a text. -/
def bytes (s : String) : List UInt8 := s.toUTF8.data.toList

theorem toByteArray_eq (l : List UInt8) : l.toByteArray = ⟨l.toArray⟩ := by
  apply ByteArray.ext
  simp

theorem bytes_eq (s : String) : bytes s = s.toList.flatMap String.utf8EncodeChar := by
  rw [bytes, String.toUTF8_eq_toByteArray, ← String.utf8Encode_toList, List.utf8Encode,
    toByteArray_eq]

/-! ## Line feeds -/

/-- Only the line feed has the byte of a line feed at its end. -/
theorem eq_lineFeed_of_getLast? {c : Char}
    (h : (String.utf8EncodeChar c).getLast? = some 10) : c = '\n' := by
  have marked {n : Nat} : UInt8.ofNat (n % 64 + 128) ≠ 10 := by
    intro heq
    have := congrArg UInt8.toNat heq
    simp only [UInt8.toNat_ofNat', UInt8.reduceToNat] at this
    omega
  rw [String.utf8EncodeChar] at h
  split at h
  · have hbyte : UInt8.ofNat c.val.toNat = 10 := Option.some.inj h
    have hcode : c.val.toNat % 256 = 10 := by
      rw [← UInt8.toNat_ofNat', hbyte]
      rfl
    apply Char.toNat_inj.1
    change c.val.toNat = 10
    omega
  repeat' split at h
  all_goals exact (marked (Option.some.inj h)).elim

theorem isValidUTF8_iff {l : List UInt8} :
    ByteArray.IsValidUTF8 ⟨l.toArray⟩ ↔
      ∃ cs : List Char, cs.flatMap String.utf8EncodeChar = l := by
  constructor
  · rintro ⟨cs, h⟩
    rw [List.utf8Encode, toByteArray_eq, ByteArray.mk.injEq] at h
    exact ⟨cs, (List.toArray_inj h).symm⟩
  · rintro ⟨cs, rfl⟩
    exact ⟨cs, by rw [List.utf8Encode, toByteArray_eq]⟩

/-- Bytes and a line feed are a text just when the bytes are one, and the text then ends with the
line feed. -/
theorem fromUTF8?_concat (l : List UInt8) :
    String.fromUTF8? ⟨(l ++ [10]).toArray⟩ =
      (String.fromUTF8? ⟨l.toArray⟩).map (·.push '\n') := by
  by_cases h : ByteArray.IsValidUTF8 ⟨l.toArray⟩
  · obtain ⟨cs, hcs⟩ := isValidUTF8_iff.1 h
    have h' : ByteArray.IsValidUTF8 ⟨(l ++ [10]).toArray⟩ :=
      isValidUTF8_iff.2 ⟨cs ++ ['\n'], by simp [hcs, String.utf8EncodeChar]⟩
    rw [String.fromUTF8?, dif_pos h', String.fromUTF8?, dif_pos h, Option.map_some,
      Option.some_inj, ← String.toByteArray_inj, String.toByteArray_push]
    apply ByteArray.ext
    simp [String.fromUTF8, List.utf8Encode, String.utf8EncodeChar]
  · have h' : ¬ByteArray.IsValidUTF8 ⟨(l ++ [10]).toArray⟩ := by
      intro h'
      obtain ⟨cs, hcs⟩ := isValidUTF8_iff.1 h'
      rcases List.eq_nil_or_concat cs with rfl | ⟨ds, c, rfl⟩
      · simp at hcs
      · rw [List.concat_eq_append, List.flatMap_append, List.flatMap_singleton] at hcs
        have hlast := congrArg List.getLast? hcs
        rw [List.getLast?_append_of_ne_nil _ String.utf8EncodeChar_ne_nil,
          List.getLast?_concat] at hlast
        obtain rfl := eq_lineFeed_of_getLast? hlast
        exact h (isValidUTF8_iff.2 ⟨ds, List.append_cancel_right hcs⟩)
    rw [String.fromUTF8?, dif_neg h', String.fromUTF8?, dif_neg h, Option.map_none]

/-! ## The order of texts -/

section
variable {a b : Nat}

theorem ofNat_lt_ofNat_iff (ha : a < 256) (hb : b < 256) :
    UInt8.ofNat a < UInt8.ofNat b ↔ a < b := by
  rw [UInt8.lt_iff_toNat_lt, UInt8.toNat_ofNat', UInt8.toNat_ofNat', Nat.mod_eq_of_lt ha,
    Nat.mod_eq_of_lt hb]

theorem ofNat_eq_ofNat_iff (ha : a < 256) (hb : b < 256) :
    UInt8.ofNat a = UInt8.ofNat b ↔ a = b := by
  rw [← UInt8.toNat_inj, UInt8.toNat_ofNat', UInt8.toNat_ofNat', Nat.mod_eq_of_lt ha,
    Nat.mod_eq_of_lt hb]

end

/-- Of two characters the earlier one is the earlier one by its bytes, whatever follows. -/
theorem encode_append_lt {c d : Char} (h : c < d) (xs ys : List UInt8) :
    String.utf8EncodeChar c ++ xs < String.utf8EncodeChar d ++ ys := by
  have hlt : c.val.toNat < d.val.toNat := h
  have hd : d.val.toNat < 1114112 := by
    rcases d.valid with hd | hd
    · exact Nat.lt_trans hd (by decide)
    · exact hd.2
  rw [String.utf8EncodeChar, String.utf8EncodeChar]
  generalize c.val.toNat = v, d.val.toNat = w at hlt hd
  -- the groups of six bits come of dividing by 64 again and again
  have groups (n : Nat) : n / 4096 = n / 64 / 64 ∧ n / 262144 = n / 64 / 64 / 64 := by
    constructor <;> simp only [Nat.div_div_eq_div_mul]
  simp only [groups]
  repeat' split
  all_goals
    simp (disch := omega) only [List.cons_append, List.cons_lt_cons_iff, ofNat_lt_ofNat_iff,
      ofNat_eq_ofNat_iff]
    omega

theorem flatMap_encode_lt {cs ds : List Char} (h : cs < ds) :
    cs.flatMap String.utf8EncodeChar < ds.flatMap String.utf8EncodeChar := by
  induction cs generalizing ds with
  | nil =>
    cases ds with
    | nil => cases h
    | cons d ds =>
      obtain ⟨b, bs, hb⟩ := List.exists_cons_of_ne_nil (@String.utf8EncodeChar_ne_nil d)
      rw [List.flatMap_cons, hb]
      exact List.nil_lt_cons ..
  | cons c cs ih =>
    cases ds with
    | nil => cases h
    | cons d ds =>
      rw [List.flatMap_cons, List.flatMap_cons]
      rcases List.cons_lt_cons_iff.1 h with hcd | ⟨rfl, hrest⟩
      · exact encode_append_lt hcd ..
      · exact List.append_left_lt (ih hrest)

theorem bytes_lt_bytes {s t : String} (h : s < t) : bytes s < bytes t := by
  rw [bytes_eq, bytes_eq]
  exact flatMap_encode_lt h

/-- Texts are in order by their bytes just when they are by their characters. -/
theorem lt_iff_bytes_lt {s t : String} : s < t ↔ bytes s < bytes t := by
  refine ⟨bytes_lt_bytes, fun h => ?_⟩
  by_contra hst
  have hts : ¬t < s := fun hts => List.lt_asymm h (bytes_lt_bytes hts)
  rw [Sorted.eq_of_not_lt hst hts] at h
  exact List.lt_irrefl _ h

end Dialogue.Text
