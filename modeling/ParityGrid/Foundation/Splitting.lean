import Mathlib

/-!
# Terminated pieces

A separator ends a piece.  What follows the last separator is not ended yet,
and grows with what is appended; the pieces before it stay as they are.
-/

namespace ParityGrid.Foundation

variable {α : Type} [BEq α] [LawfulBEq α]

/-- The pieces of a list that a separator ends. -/
def terminated (separator : α) (content : List α) : List (List α) :=
  (content.splitOn separator).dropLast

/-- What follows the last separator. -/
def unterminated (separator : α) (content : List α) : List α :=
  (content.splitOn separator).getLast (List.splitOn_ne_nil separator content)

variable {separator : α} {piece rest : List α}

theorem terminated_of_notMem (free : separator ∉ piece) :
    terminated separator piece = [] := by
  rw [terminated, List.splitOn_eq_singleton free]
  rfl

theorem unterminated_of_notMem (free : separator ∉ piece) :
    unterminated separator piece = piece := by
  simp only [unterminated, List.splitOn_eq_singleton free,
    List.getLast_singleton]

theorem terminated_cut (free : separator ∉ piece) :
    terminated separator (piece ++ separator :: rest) =
      piece :: terminated separator rest := by
  rw [terminated, List.splitOn_append_cons_self_of_not_mem free,
    List.dropLast_cons_of_ne_nil (List.splitOn_ne_nil separator rest)]
  rfl

theorem unterminated_cut (free : separator ∉ piece) :
    unterminated separator (piece ++ separator :: rest) =
      unterminated separator rest := by
  simp only [unterminated, List.splitOn_append_cons_self_of_not_mem free,
    List.getLast_cons (List.splitOn_ne_nil separator rest)]

/-- A list either holds no separator or starts with a piece that one ends. -/
theorem notMem_or_cut (separator : α) (content : List α) :
    separator ∉ content ∨
      ∃ piece rest, separator ∉ piece ∧
        content = piece ++ separator :: rest := by
  by_cases member : separator ∈ content
  · obtain ⟨piece, rest, form, free⟩ :=
      List.eq_append_cons_of_mem member
    exact .inr ⟨piece, rest, free, form⟩
  · exact .inl member

/-- Induction over the pieces that a separator ends. -/
theorem pieces_induction (separator : α) {motive : List α → Prop}
    (free : ∀ piece, separator ∉ piece → motive piece)
    (cut : ∀ piece rest, separator ∉ piece → motive rest →
      motive (piece ++ separator :: rest)) (content : List α) :
    motive content := by
  rcases notMem_or_cut separator content with
    none_ | ⟨piece, rest, ends, form⟩
  · exact free content none_
  · have shorter : rest.length < content.length := by
      rw [form, List.length_append, List.length_cons]
      omega
    rw [form]
    exact cut piece rest ends (pieces_induction separator free cut rest)
termination_by content.length

/-- Only what is not ended yet meets what is appended. -/
theorem terminated_append (separator : α) (content more : List α) :
    terminated separator (content ++ more) =
      terminated separator content ++
        terminated separator (unterminated separator content ++ more) := by
  induction content using pieces_induction separator with
  | free piece free =>
      rw [terminated_of_notMem free, unterminated_of_notMem free,
        List.nil_append]
  | cut piece rest free ih =>
      rw [List.append_assoc, List.cons_append, terminated_cut free,
        terminated_cut free, unterminated_cut free, ih, List.cons_append]

theorem unterminated_append (separator : α) (content more : List α) :
    unterminated separator (content ++ more) =
      unterminated separator (unterminated separator content ++ more) := by
  induction content using pieces_induction separator with
  | free piece free => rw [unterminated_of_notMem free]
  | cut piece rest free ih =>
      rw [List.append_assoc, List.cons_append, unterminated_cut free,
        unterminated_cut free, ih]

/-- No piece is longer than the whole. -/
theorem length_le_of_mem_splitOn {content : List α}
    (member : piece ∈ content.splitOn separator) :
    piece.length ≤ content.length := by
  induction content using pieces_induction separator with
  | free whole free =>
      rw [List.splitOn_eq_singleton free, List.mem_singleton] at member
      exact member ▸ Nat.le_refl _
  | cut first rest free ih =>
      rw [List.splitOn_append_cons_self_of_not_mem free, List.mem_cons]
        at member
      rw [List.length_append, List.length_cons]
      rcases member with rfl | later
      · exact Nat.le_add_right _ _
      · have bound := ih later
        omega

end ParityGrid.Foundation
