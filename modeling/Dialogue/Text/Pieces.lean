/-!
# Pieces between separators

The pieces that a separator cuts a list into. No piece holds the separator
(`not_mem_of_mem_pieces`).
-/

namespace Dialogue.Text
variable {α : Type} [BEq α]

/-- Takes an element to the front of the first piece, or begins a piece at a separator. -/
def pieceCons (sep a : α) (pieces : List α × List (List α)) : List α × List (List α) :=
  if a == sep then ([], pieces.1 :: pieces.2) else (a :: pieces.1, pieces.2)

/-- The pieces between separators: always one more than there are separators. -/
def pieces (sep : α) (l : List α) : List (List α) :=
  let (first, others) := l.foldr (pieceCons sep) ([], [])
  first :: others

theorem pieces_nil (sep : α) : pieces sep [] = [[]] := rfl

theorem pieces_cons (sep a : α) (l : List α) :
    ∃ first others, pieces sep l = first :: others ∧
      pieces sep (a :: l) =
        if a == sep then [] :: first :: others else (a :: first) :: others := by
  refine ⟨_, _, rfl, ?_⟩
  simp only [pieces, List.foldr_cons, pieceCons]
  split <;> rfl

variable [LawfulBEq α]

theorem not_mem_of_mem_pieces {sep : α} {l p : List α} (h : p ∈ pieces sep l) : sep ∉ p := by
  induction l generalizing p with
  | nil => simp_all [pieces_nil]
  | cons a l ih =>
    obtain ⟨first, others, hl, h'⟩ := pieces_cons sep a l
    rw [h'] at h
    rw [hl] at ih
    split at h
    · rcases List.mem_cons.1 h with rfl | h
      · exact List.not_mem_nil
      · exact ih h
    · next ha =>
      rcases List.mem_cons.1 h with rfl | h
      · intro hm
        rcases List.mem_cons.1 hm with rfl | hm
        · exact ha (beq_self_eq_true _)
        · exact ih List.mem_cons_self hm
      · exact ih (List.mem_cons_of_mem _ h)

end Dialogue.Text
