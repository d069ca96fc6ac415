import Mathlib

/-!
# Escaped separators

A separator ends a field unless an escape stands before it.  The fields keep
their escapes, so that joining them gives the line back.
-/

namespace ParityGrid.Foundation

variable {α : Type} {escape separator : α}

/-- A field: every escape is followed, and no separator stands unescaped. -/
inductive IsField (escape separator : α) : List α → Prop where
  | nil : IsField escape separator []
  | plain {c : α} {rest : List α} (escapes : c ≠ escape)
      (separates : c ≠ separator) (later : IsField escape separator rest) :
      IsField escape separator (c :: rest)
  | escaped {c : α} {rest : List α} (later : IsField escape separator rest) :
      IsField escape separator (escape :: c :: rest)

theorem IsField.append {left right : List α}
    (first : IsField escape separator left)
    (second : IsField escape separator right) :
    IsField escape separator (left ++ right) := by
  induction first with
  | nil => exact second
  | plain escapes separates _ ih => exact .plain escapes separates ih
  | escaped _ ih => exact .escaped ih

/-- Text without escapes and separators is a field. -/
theorem IsField.of_plain {field : List α}
    (plain : ∀ c ∈ field, c ≠ escape ∧ c ≠ separator) :
    IsField escape separator field := by
  induction field with
  | nil => exact .nil
  | cons c rest ih =>
      rw [List.forall_mem_cons] at plain
      exact .plain plain.1.1 plain.1.2 (ih plain.2)

variable [DecidableEq α]

/-- The fields of a line between its unescaped separators. -/
def splitUnescaped (escape separator : α) (current : List α) :
    List α → List (List α)
  | [] => [current]
  | [last] =>
      if last = separator then [current, []] else [current ++ [last]]
  | first :: second :: rest =>
      if first = escape then
        splitUnescaped escape separator (current ++ [first, second]) rest
      else if first = separator then
        current :: splitUnescaped escape separator [] (second :: rest)
      else splitUnescaped escape separator (current ++ [first]) (second :: rest)

theorem splitUnescaped_ne_nil (current line : List α) :
    splitUnescaped escape separator current line ≠ [] := by
  fun_induction splitUnescaped escape separator current line <;> simp_all

/-- Joining the fields of a line gives the line back. -/
theorem intercalate_splitUnescaped (current line : List α) :
    [separator].intercalate (splitUnescaped escape separator current line) =
      current ++ line := by
  fun_induction splitUnescaped escape separator current line with
  | case1 current => simp
  | case2 current => simp
  | case3 current last plain => simp
  | case4 current second rest ih => simp [ih]
  | case5 current second rest apart ih =>
      rw [List.intercalate_cons_of_ne_nil (splitUnescaped_ne_nil _ _), ih]
      simp
  | case6 current first second rest escapes separates ih => simp [ih]

theorem splitUnescaped_field {field : List α}
    (whole : IsField escape separator field) (current : List α) :
    splitUnescaped escape separator current field = [current ++ field] := by
  induction whole generalizing current with
  | nil => simp [splitUnescaped]
  | @plain c rest escapes separates later ih =>
      cases rest with
      | nil => simp [splitUnescaped, separates]
      | cons second rest =>
          rw [splitUnescaped, if_neg escapes, if_neg separates, ih,
            List.append_assoc]
          rfl
  | escaped later ih =>
      rw [splitUnescaped, if_pos rfl, ih, List.append_assoc]
      rfl

/-- A field up to the first unescaped separator. -/
theorem splitUnescaped_cut {field rest : List α}
    (apart : separator ≠ escape)
    (whole : IsField escape separator field) (current : List α) :
    splitUnescaped escape separator current (field ++ separator :: rest) =
      (current ++ field) :: splitUnescaped escape separator [] rest := by
  induction whole generalizing current with
  | nil =>
      cases rest with
      | nil => simp [splitUnescaped]
      | cons second rest => simp [splitUnescaped, apart]
  | @plain c field escapes separates later ih =>
      obtain ⟨second, more, form⟩ : ∃ second more,
          field ++ separator :: rest = second :: more :=
        List.exists_cons_of_ne_nil (by simp)
      have step : splitUnescaped escape separator current
          (c :: field ++ separator :: rest) =
          splitUnescaped escape separator (current ++ [c])
            (field ++ separator :: rest) := by
        rw [List.cons_append, form, splitUnescaped, if_neg escapes,
          if_neg separates]
      rw [step, ih, List.append_assoc]
      rfl
  | @escaped c field later ih =>
      rw [List.cons_append, List.cons_append, splitUnescaped, if_pos rfl, ih,
        List.append_assoc]
      rfl

end ParityGrid.Foundation
