import ParityGrid.Foundation.JsonRoundTrip
import ParityGrid.Foundation.Sorting

/-!
# Objects that are the same JSON

Two objects sort to the same document exactly when they agree at every key.
Their texts are equal exactly when they agree up to surrogate pairs, and an
object with ASCII keys then agrees with the other one key by key.
-/

namespace ParityGrid.Foundation

namespace JsonValue

/-- Objects sort alike exactly when they agree at every key. -/
theorem sortKeys_object_eq_iff {left right : List (Text × JsonValue)}
    (leftDistinct : (left.map Prod.fst).Nodup)
    (rightDistinct : (right.map Prod.fst).Nodup) :
    (object left).sortKeys = (object right).sortKeys ↔
      ∀ key, (left.lookup key).map sortKeys =
        (right.lookup key).map sortKeys := by
  rw [← sortFields_keys] at leftDistinct rightDistinct
  have sorts := sortedBy_fst_eq_iff (Function.injective_id (α := Text))
    leftDistinct rightDistinct
  simp only [sortFields_lookup] at sorts
  rw [sortKeys, sortKeys, object.injEq, ← sorts]
  rfl

/-- Fields with the units of ASCII keys have these keys. -/
theorem unitsFields_lookup {left right : List (Text × JsonValue)}
    (ascii : ∀ entry ∈ right, entry.1.all isAscii)
    (equal : unitsFields left = unitsFields right) (key : Text) :
    (left.lookup key).map units = (right.lookup key).map units := by
  induction left generalizing right with
  | nil =>
      cases right with
      | nil => rfl
      | cons _ _ => simp [unitsFields] at equal
  | cons entry left ih =>
      cases right with
      | nil => simp [unitsFields] at equal
      | cons other right =>
          rw [List.forall_mem_cons] at ascii
          simp only [unitsFields, List.cons.injEq, Prod.mk.injEq, unitText_inj]
            at equal
          obtain ⟨⟨names, values⟩, later⟩ := equal
          have same := utf16_ascii ascii.1 names
          rw [List.lookup_cons, List.lookup_cons, same]
          split
          · rw [Option.map_some, Option.map_some, values]
          · exact ih ascii.2 later

/-- An object that is the same as one with ASCII keys agrees at every key. -/
theorem Same.lookup {left right : List (Text × JsonValue)}
    (same : (object left).Same (object right))
    (ascii : ∀ name ∈ right.map Prod.fst, name.all isAscii) (key : Text) :
    (left.lookup key).map (fun value => value.sortKeys.units) =
      (right.lookup key).map fun value => value.sortKeys.units := by
  rw [Same, sortKeys, sortKeys, units, units, object.injEq] at same
  have sortedAscii : ∀ entry ∈ (sortFields right).insertionSort fieldLe,
      entry.1.all isAscii := by
    intro entry member
    rw [List.mem_insertionSort] at member
    apply ascii
    rw [← sortFields_keys]
    exact List.mem_map_of_mem member
  have found := unitsFields_lookup sortedAscii same key
  rwa [lookup_insertionSort, lookup_insertionSort, sortFields_lookup,
    sortFields_lookup, Option.map_map, Option.map_map] at found

end JsonValue

end ParityGrid.Foundation
