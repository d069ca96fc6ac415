import ParityGrid.Foundation.Dict
import ParityGrid.Foundation.Text

/-!
# Plain values

What the `to_mapping` of a record returns and its `from_mapping` is given:
texts, integers, lists and dictionaries.  A dictionary holds every key once,
and is equal to one with the same value under every key.
-/

namespace ParityGrid.Application

open ParityGrid.Foundation

/-- A key of a dictionary: a text, or some other hashable value. -/
inductive PlainKey where
  | text (value : Text)
  | other (index : Nat)
deriving DecidableEq

/-- A value, by its exact type; `other` is of a type that no decoder reads. -/
inductive PlainValue where
  | null
  | bool (value : Bool)
  | int (value : Int)
  | text (value : Text)
  | list (items : List PlainValue)
  | mapping (items : List (PlainKey × PlainValue))
  | other

/-- `mapping[key]`, once the keys are known to be there. -/
def mappingValue (items : List (PlainKey × PlainValue)) (key : String) :
    PlainValue :=
  (items.lookup (.text (text key))).getD .null

/-- Two dictionaries with the same value under every key. -/
def SameMapping (left right : List (PlainKey × PlainValue)) : Prop :=
  ∀ key, left.lookup key = right.lookup key

/--
`left == right`, of values of the same exact types: lists item by item, and
dictionaries key by key.
-/
inductive PlainValue.Equal : PlainValue → PlainValue → Prop where
  | null : Equal .null .null
  | bool (value : Bool) : Equal (.bool value) (.bool value)
  | int (value : Int) : Equal (.int value) (.int value)
  | text (value : Text) : Equal (.text value) (.text value)
  | list {left right : List PlainValue}
      (items : List.Forall₂ Equal left right) :
      Equal (.list left) (.list right)
  | mapping {left right : List (PlainKey × PlainValue)}
      (keys : ∀ key, (left.lookup key).isSome = (right.lookup key).isSome)
      (values : ∀ key value answer, left.lookup key = some value →
        right.lookup key = some answer → Equal value answer) :
      Equal (.mapping left) (.mapping right)

section Keys

variable {items expected : List (PlainKey × PlainValue)}

/-- As many keys as expected, the expected ones among them, are these keys. -/
theorem lookup_of_keys (distinct : (expected.map Prod.fst).Nodup)
    (length : items.length = expected.length)
    (keys : ∀ key ∈ expected.map Prod.fst, key ∈ items.map Prod.fst)
    (key : PlainKey) :
    (items.lookup key = none ∧ expected.lookup key = none) ∨
      ∃ value, items.lookup key = some value ∧
        ∃ entry ∈ expected, entry.1 = key ∧
          expected.lookup key = some entry.2 := by
  have perm : (expected.map Prod.fst).Perm (items.map Prod.fst) := by
    apply List.Subperm.perm_of_length_le
    · exact List.subperm_of_subset distinct keys
    · rw [List.length_map, List.length_map, length]
  by_cases member : key ∈ expected.map Prod.fst
  · right
    have present := lookup_isSome.mpr (perm.mem_iff.mp member)
    obtain ⟨value, found⟩ := Option.isSome_iff_exists.mp present
    obtain ⟨entry, inside, rfl⟩ := List.mem_map.mp member
    exact ⟨value, found, entry, inside, rfl,
      (lookup_eq_some_iff_mem distinct).mpr inside⟩
  · left
    exact ⟨lookup_eq_none_iff_notMem.mpr (mt perm.mem_iff.mpr member),
      lookup_eq_none_iff_notMem.mpr member⟩

/-- Dictionaries over the same keys are the same when the values are. -/
theorem sameMapping_of_keys (distinct : (expected.map Prod.fst).Nodup)
    (length : items.length = expected.length)
    (keys : ∀ key ∈ expected.map Prod.fst, key ∈ items.map Prod.fst)
    (values : ∀ entry ∈ expected,
      (items.lookup entry.1).getD .null = entry.2) :
    SameMapping items expected := by
  intro key
  rcases lookup_of_keys distinct length keys key with
    ⟨missing, none_⟩ | ⟨value, found, entry, inside, rfl, known⟩
  · rw [missing, none_]
  · have same := values entry inside
    rw [found, Option.getD_some] at same
    rw [found, known, same]

/-- Dictionaries over the same keys are equal when the values are. -/
theorem equal_of_keys (distinct : (expected.map Prod.fst).Nodup)
    (length : items.length = expected.length)
    (keys : ∀ key ∈ expected.map Prod.fst, key ∈ items.map Prod.fst)
    (values : ∀ entry ∈ expected,
      ((items.lookup entry.1).getD .null).Equal entry.2) :
    (PlainValue.mapping items).Equal (.mapping expected) := by
  refine .mapping (fun key => ?_) fun key value answer left right => ?_
  · rcases lookup_of_keys distinct length keys key with
      ⟨missing, none_⟩ | ⟨value, found, entry, inside, rfl, known⟩
    · rw [missing, none_]
    · rw [found, known]
      rfl
  · rcases lookup_of_keys distinct length keys key with
      ⟨missing, none_⟩ | ⟨value, found, entry, inside, rfl, known⟩
    · rw [missing] at left
      cases left
    · have same := values entry inside
      rw [left, Option.getD_some] at same
      rw [known] at right
      cases right
      exact same

end Keys

end ParityGrid.Application
