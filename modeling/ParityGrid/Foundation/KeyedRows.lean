import Mathlib

/-!
# Rows with keys

A table as the list of its rows, each under a key of its own.  Writing a row
replaces the one with its key and leaves every other row where it is.
-/

namespace ParityGrid.Foundation.KeyedRows

variable {κ ρ : Type} [DecidableEq κ] {key : ρ → κ} {rows : List ρ}

/-- `update(table)` of the row with one key. -/
def replace (key : ρ → κ) (rows : List ρ) (row : ρ) : List ρ :=
  rows.map fun old => if key old = key row then row else old

/-- The row with one key. -/
def find (key : ρ → κ) (rows : List ρ) (k : κ) : Option ρ :=
  rows.find? fun row => key row == k

theorem find_cons {first : ρ} {k : κ} :
    find key (first :: rows) k =
      if key first = k then some first else find key rows k := by
  rw [find, List.find?_cons]
  by_cases same : key first = k
  · simp [same]
  · rw [if_neg same, beq_eq_false_iff_ne.mpr same]
    rfl

theorem replace_cons {first row : ρ} :
    replace key (first :: rows) row =
      (if key first = key row then row else first) ::
        replace key rows row :=
  rfl

theorem find_key {k : κ} {row : ρ} (found : find key rows k = some row) :
    key row = k := by
  have holds := List.find?_some found
  simpa using holds

theorem find_mem {k : κ} {row : ρ} (found : find key rows k = some row) :
    row ∈ rows :=
  List.mem_of_find?_eq_some found

theorem find_eq_none {k : κ} :
    find key rows k = none ↔ ∀ row ∈ rows, key row ≠ k := by
  simp [find, List.find?_eq_none]

theorem find_of_mem (distinct : (rows.map key).Nodup) {row : ρ}
    (member : row ∈ rows) : find key rows (key row) = some row := by
  induction rows with
  | nil => cases member
  | cons first rest ih =>
      rw [List.map_cons, List.nodup_cons] at distinct
      rcases List.mem_cons.mp member with rfl | later
      · simp [find_cons]
      · have apart : key first ≠ key row := by
          intro same
          exact distinct.1 (same ▸ List.mem_map_of_mem later)
        rw [find_cons, if_neg apart]
        exact ih distinct.2 later

@[simp]
theorem keys_replace (row : ρ) :
    (replace key rows row).map key = rows.map key := by
  rw [replace, List.map_map]
  apply List.map_congr_left
  intro old _
  simp only [Function.comp_apply]
  split
  next same => exact same.symm
  next => rfl

theorem find_replace_other {row : ρ} {k : κ} (apart : key row ≠ k) :
    find key (replace key rows row) k = find key rows k := by
  induction rows with
  | nil => rfl
  | cons first rest ih =>
      rw [replace_cons, find_cons, find_cons, ih]
      by_cases same : key first = key row
      · simp [same, apart]
      · simp [same]

theorem find_replace_self {row old : ρ}
    (found : find key rows (key row) = some old) :
    find key (replace key rows row) (key row) = some row := by
  induction rows with
  | nil => cases found
  | cons first rest ih =>
      rw [find_cons] at found
      rw [replace_cons, find_cons]
      by_cases same : key first = key row
      · simp [same]
      · rw [if_neg same] at found
        simp [same, ih found]

/-- Of two writes under one key the later one counts. -/
theorem replace_replace {first second : ρ} (same : key first = key second) :
    replace key (replace key rows first) second = replace key rows second := by
  rw [replace, replace, replace, List.map_map]
  apply List.map_congr_left
  intro old _
  simp only [Function.comp_apply]
  by_cases written : key old = key second
  · simp [same, written]
  · simp [same, written]

theorem find_append_of_find {row old : ρ} {k : κ}
    (found : find key rows k = some old) :
    find key (rows ++ [row]) k = some old := by
  rw [find, List.find?_append]
  exact Option.or_eq_some_iff.mpr (.inl found)

/-- Every row of the new table is the written one or an old one. -/
theorem mem_replace {row entry : ρ} (member : entry ∈ replace key rows row) :
    entry = row ∨ entry ∈ rows ∧ key entry ≠ key row := by
  obtain ⟨old, inside, rfl⟩ := List.mem_map.mp member
  by_cases same : key old = key row
  · simp [same]
  · simp [same, inside]

end ParityGrid.Foundation.KeyedRows
