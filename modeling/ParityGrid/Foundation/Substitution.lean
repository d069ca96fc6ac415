import Mathlib

/-!
# Substituting matches

`substitute` scans a list from the left and replaces every match that a
matcher finds, each where the one before it ended.  A matcher sees the element
before its position and the rest of the list, and answers a replacement and
how many elements it consumed, at least one.
-/

namespace ParityGrid.Foundation

variable {α : Type}

/-- A matcher: the element before, and what lies ahead. -/
abbrev Matcher (α : Type) := Option α → List α → Option (List α × Nat)

/-- The scan from one position on; `skip` elements belong to the last match. -/
def substituteFrom (matcher : Matcher α) : Option α → Nat → List α → List α
  | _, _, [] => []
  | _, skip + 1, a :: rest => substituteFrom matcher (some a) skip rest
  | before, 0, a :: rest =>
      match matcher before (a :: rest) with
      | none => a :: substituteFrom matcher (some a) 0 rest
      | some (replacement, consumed) =>
          replacement ++ substituteFrom matcher (some a) (consumed - 1) rest

/-- `pattern.sub(replacement, value)`. -/
def substitute (matcher : Matcher α) (values : List α) : List α :=
  substituteFrom matcher none 0 values

section Scan

variable {matcher : Matcher α} {before : Option α} {a : α} {rest : List α}

theorem substituteFrom_none (misses : matcher before (a :: rest) = none) :
    substituteFrom matcher before 0 (a :: rest) =
      a :: substituteFrom matcher (some a) 0 rest := by
  rw [substituteFrom, misses]

theorem substituteFrom_some {replacement : List α} {consumed : Nat}
    (matches_ : matcher before (a :: rest) = some (replacement, consumed)) :
    substituteFrom matcher before 0 (a :: rest) =
      replacement ++ substituteFrom matcher (some a) (consumed - 1) rest := by
  rw [substituteFrom, matches_]

/-- What a match consumed is passed over. -/
theorem substituteFrom_skip (before : Option α) (consumed rest : List α) :
    substituteFrom matcher before consumed.length (consumed ++ rest) =
      substituteFrom matcher ((consumed.getLast?).or before) 0 rest := by
  induction consumed generalizing before with
  | nil => rfl
  | cons a consumed ih =>
      rw [List.length_cons, List.cons_append, substituteFrom, ih]
      congr 1
      rw [List.getLast?_cons]
      cases consumed.getLast? <;> rfl

/-- Everything that the scan writes comes from the list or a replacement. -/
theorem all_substituteFrom {p : α → Prop}
    (replaces : ∀ before ahead replacement consumed,
      (∀ b ∈ ahead, p b) →
      matcher before ahead = some (replacement, consumed) →
        ∀ b ∈ replacement, p b)
    {values : List α} (holds : ∀ b ∈ values, p b) (before : Option α)
    (skip : Nat) : ∀ b ∈ substituteFrom matcher before skip values, p b := by
  induction values generalizing before skip with
  | nil =>
      intro b member
      rw [substituteFrom] at member
      exact absurd member List.not_mem_nil
  | cons a rest ih =>
      have later := (List.forall_mem_cons.mp holds).2
      cases skip with
      | succ skip =>
          rw [substituteFrom]
          exact ih later (some a) skip
      | zero =>
          intro b member
          cases found : matcher before (a :: rest) with
          | none =>
              rw [substituteFrom_none found] at member
              rcases List.mem_cons.mp member with rfl | member
              · exact holds b List.mem_cons_self
              · exact ih later _ _ b member
          | some answer =>
              obtain ⟨replacement, consumed⟩ := answer
              rw [substituteFrom_some found] at member
              rcases List.mem_append.mp member with inside | member
              · exact replaces _ _ _ _ holds found b inside
              · exact ih later _ _ b member

/-- A scan that meets no match keeps the list. -/
theorem substituteFrom_eq_self {values before : List α}
    (misses : ∀ left ahead, values = left ++ ahead →
      matcher (before ++ left).getLast? ahead = none) :
    substituteFrom matcher before.getLast? 0 values = values := by
  induction values generalizing before with
  | nil => rfl
  | cons a rest ih =>
      have here := misses [] (a :: rest) rfl
      rw [List.append_nil] at here
      have later := @ih (before ++ [a]) fun left ahead form => by
        rw [List.append_assoc]
        exact misses (a :: left) ahead (congrArg (a :: ·) form)
      rw [List.getLast?_concat] at later
      rw [substituteFrom_none here, later]

theorem substitute_eq_self {values : List α}
    (misses : ∀ left ahead, values = left ++ ahead →
      matcher left.getLast? ahead = none) :
    substitute matcher values = values :=
  @substituteFrom_eq_self α matcher values [] misses

end Scan

/-! ## Lists with holes -/

/-- Fill the holes of a list. -/
def fill (filling : List α) (template : List (Option α)) : List α :=
  template.flatMap fun entry =>
    match entry with
    | none => filling
    | some a => [a]

variable {filling other replacement : List α} {template : List (Option α)}

@[simp]
theorem fill_nil (filling : List α) : fill filling [] = [] := rfl

@[simp]
theorem fill_hole (filling : List α) (template : List (Option α)) :
    fill filling (none :: template) = filling ++ fill filling template := rfl

@[simp]
theorem fill_some (filling : List α) (a : α) (template : List (Option α)) :
    fill filling (some a :: template) = a :: fill filling template := rfl

@[simp]
theorem fill_append (filling : List α) (left right : List (Option α)) :
    fill filling (left ++ right) = fill filling left ++ fill filling right :=
  List.flatMap_append

theorem fill_map_some (filling values : List α) :
    fill filling (values.map some) = values := by
  induction values with
  | nil => rfl
  | cons a rest ih => rw [List.map_cons, fill_some, ih]

theorem length_fill_eq (same : filling.length = other.length)
    (template : List (Option α)) :
    (fill filling template).length = (fill other template).length := by
  induction template with
  | nil => rfl
  | cons entry rest ih =>
      cases entry with
      | none => rw [fill_hole, fill_hole, List.length_append,
          List.length_append, same, ih]
      | some a => rw [fill_some, fill_some, List.length_cons,
          List.length_cons, ih]

theorem mem_fill {a : α} (member : a ∈ fill filling template) :
    a ∈ filling ∨ some a ∈ template := by
  rw [fill, List.mem_flatMap] at member
  obtain ⟨entry, inside, member⟩ := member
  cases entry with
  | none => exact .inl member
  | some b =>
      rw [List.mem_singleton] at member
      exact .inr (member ▸ inside)

/-- Nothing that lacks an element begins at it. -/
theorem not_prefix_of_notMem {a : α} {values : List α}
    (nonempty : filling ≠ []) (other : a ∉ filling) :
    ¬filling <+: a :: values := by
  intro found
  obtain ⟨first, tail, rfl⟩ := List.exists_cons_of_ne_nil nonempty
  rw [List.cons_prefix_cons] at found
  exact other (found.1 ▸ List.mem_cons_self)

/-! ## Literal matches -/

variable [DecidableEq α]

/-- The literal `needle`, replaced by a fixed list. -/
def literal (needle replacement : List α) : Matcher α :=
  fun _ ahead =>
    if needle.isPrefixOf ahead then some (replacement, needle.length) else none

/-- `value.replace(needle, replacement)`. -/
def replaceAll (needle replacement values : List α) : List α :=
  substitute (literal needle replacement) values

theorem literal_none {needle replacement ahead : List α} {before : Option α}
    (misses : ¬needle <+: ahead) :
    literal needle replacement before ahead = none :=
  if_neg fun found => misses (List.isPrefixOf_iff_prefix.mp found)

/-- A literal that does not occur is not replaced. -/
theorem replaceAll_eq_self {needle replacement values : List α}
    (misses : ¬needle <:+: values) :
    replaceAll needle replacement values = values := by
  refine substitute_eq_self fun left ahead form => ?_
  have suffix : ahead <:+ values := ⟨left, form.symm⟩
  exact literal_none fun found => misses (found.isInfix.trans suffix.isInfix)

/-- `values.find(needle, start)`. -/
def findFrom (needle values : List α) (start : Nat) : Option Nat :=
  (List.range (values.length + 1)).find? fun i =>
    start ≤ i && needle.isPrefixOf (values.drop i)

theorem findFrom_eq_some {needle values : List α} {start i : Nat} :
    findFrom needle values start = some i ↔
      i ≤ values.length ∧ start ≤ i ∧ needle <+: values.drop i ∧
        ∀ j, start ≤ j → j < i → ¬needle <+: values.drop j := by
  rw [findFrom, List.find?_range_eq_some]
  simp only [List.mem_range, Nat.lt_succ_iff, Bool.and_eq_true,
    decide_eq_true_eq, List.isPrefixOf_iff_prefix, Bool.not_eq_true',
    Bool.and_eq_false_iff, decide_eq_false_iff_not]
  constructor
  · rintro ⟨⟨late, found⟩, inside, first⟩
    refine ⟨inside, late, found, fun j reached before met => ?_⟩
    rcases first j before with early | misses
    · exact early reached
    · rw [List.isPrefixOf_iff_prefix.mpr met] at misses
      cases misses
  · rintro ⟨inside, late, found, first⟩
    refine ⟨⟨late, found⟩, inside, fun j before => ?_⟩
    by_cases reached : start ≤ j
    · refine .inr (Bool.eq_false_iff.mpr fun met => ?_)
      exact first j reached before (List.isPrefixOf_iff_prefix.mp met)
    · exact .inl reached

theorem findFrom_eq_none {needle values : List α} {start : Nat} :
    findFrom needle values start = none ↔
      ∀ i, i ≤ values.length → start ≤ i → ¬needle <+: values.drop i := by
  rw [findFrom, List.find?_eq_none]
  simp only [List.mem_range, Nat.lt_succ_iff, Bool.and_eq_true,
    decide_eq_true_eq, List.isPrefixOf_iff_prefix, not_and]

theorem findFrom_zero_eq_none {needle values : List α} :
    findFrom needle values 0 = none ↔ ¬needle <:+: values := by
  rw [findFrom_eq_none]
  constructor
  · rintro misses ⟨before, after, rfl⟩
    refine misses before.length ?_ (Nat.zero_le _) ?_
    · rw [List.append_assoc, List.length_append]
      exact Nat.le_add_right _ _
    · rw [List.append_assoc, List.drop_left]
      exact List.prefix_append needle after
  · intro misses i _ _ found
    exact misses (found.isInfix.trans (List.drop_suffix i values).isInfix)

/-- When the filling begins at no element outside the holes, replacing it
fills the holes with the replacement instead. -/
theorem replaceAll_fill (nonempty : filling ≠ [])
    (apart : ∀ a rest, some a :: rest <:+ template →
      ¬filling <+: a :: fill filling rest) :
    replaceAll filling replacement (fill filling template) =
      fill replacement template := by
  rw [replaceAll, substitute]
  generalize (none : Option α) = before
  induction template generalizing before with
  | nil => rfl
  | cons entry rest ih =>
      have later := ih fun a after inside =>
        apart a after (inside.trans (List.suffix_cons entry rest))
      cases entry with
      | none =>
          obtain ⟨first, tail, rfl⟩ := List.exists_cons_of_ne_nil nonempty
          have found : literal (first :: tail) replacement before
              (first :: (tail ++ fill (first :: tail) rest)) =
                some (replacement, tail.length + 1) :=
            if_pos (List.isPrefixOf_iff_prefix.mpr
              (List.prefix_append (first :: tail) _))
          rw [fill_hole, fill_hole, List.cons_append,
            substituteFrom_some found, Nat.add_sub_cancel,
            substituteFrom_skip, later]
      | some a =>
          have misses := apart a rest (List.suffix_refl _)
          rw [fill_some, fill_some,
            substituteFrom_none (literal_none misses), later]

end ParityGrid.Foundation
