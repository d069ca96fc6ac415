import ParityGrid.Foundation.JsonRoundTrip

/-!
# Documents without surrogate pairs

JSON writes a high surrogate followed by a low one like the one character they
encode, and reads that character.  A document that fits the encoder is read
back exactly when no text or key of it holds such a pair.
-/

namespace ParityGrid.Foundation

mutual

/-- No text of the document, keys included, holds a surrogate pair. -/
def JsonValue.allPaired : JsonValue → Bool
  | .scalar _ => true
  | .string t => paired t
  | .array items => JsonValue.allPairedItems items
  | .object fields => JsonValue.allPairedFields fields

def JsonValue.allPairedItems : List JsonValue → Bool
  | [] => true
  | item :: rest => item.allPaired && JsonValue.allPairedItems rest

def JsonValue.allPairedFields : List (Text × JsonValue) → Bool
  | [] => true
  | (key, value) :: rest =>
      paired key && value.allPaired && JsonValue.allPairedFields rest

end

theorem JsonValue.allPairedFields_iff {fields : List (Text × JsonValue)} :
    allPairedFields fields ↔
      ∀ entry ∈ fields, paired entry.1 ∧ entry.2.allPaired := by
  induction fields with
  | nil => simp [allPairedFields]
  | cons entry rest ih =>
      obtain ⟨key, value⟩ := entry
      simp only [allPairedFields, Bool.and_eq_true, ih, List.forall_mem_cons]

theorem JsonValue.forall_mem_sortFields {fields : List (Text × JsonValue)}
    {P : Text → JsonValue → Prop} :
    (∀ entry ∈ sortFields fields, P entry.1 entry.2) ↔
      ∀ entry ∈ fields, P entry.1 entry.2.sortKeys := by
  induction fields with
  | nil => simp [sortFields]
  | cons entry rest ih =>
      obtain ⟨key, value⟩ := entry
      simp only [sortFields, List.forall_mem_cons, ih]

mutual

theorem JsonValue.allPaired_sortKeys : (value : JsonValue) →
    value.sortKeys.allPaired = value.allPaired
  | .scalar _ => rfl
  | .string _ => rfl
  | .array items => by
      simp only [sortKeys, allPaired]
      exact JsonValue.allPaired_sortItems items
  | .object fields => by
      simp only [sortKeys, allPaired]
      rw [Bool.eq_iff_iff, ← JsonValue.allPaired_sortFields fields,
        allPairedFields_iff, allPairedFields_iff]
      simp only [List.mem_insertionSort]

theorem JsonValue.allPaired_sortItems : (items : List JsonValue) →
    allPairedItems (sortItems items) = allPairedItems items
  | [] => rfl
  | item :: rest => by
      simp only [sortItems, allPairedItems, item.allPaired_sortKeys,
        JsonValue.allPaired_sortItems rest]

theorem JsonValue.allPaired_sortFields :
    (fields : List (Text × JsonValue)) →
    allPairedFields (sortFields fields) = allPairedFields fields
  | [] => rfl
  | (key, value) :: rest => by
      simp only [sortFields, allPairedFields, value.allPaired_sortKeys,
        JsonValue.allPaired_sortFields rest]

end

section Values

variable [JsonRuntime]

mutual

/-- What JSON gives holds no surrogate pair. -/
theorem JsonValue.WellRead.allPaired : (value : JsonValue) →
    value.WellRead → value.allPaired
  | .scalar _, _ => rfl
  | .string _, read => read
  | .array items, read => JsonValue.WellReadItems.allPaired items read
  | .object fields, read => JsonValue.WellReadFields.allPaired fields read.2

theorem JsonValue.WellReadItems.allPaired : (items : List JsonValue) →
    JsonValue.WellReadItems items → JsonValue.allPairedItems items
  | [], _ => rfl
  | item :: rest, read => by
      rw [JsonValue.allPairedItems, Bool.and_eq_true]
      exact ⟨JsonValue.WellRead.allPaired item read.1,
        JsonValue.WellReadItems.allPaired rest read.2⟩

theorem JsonValue.WellReadFields.allPaired :
    (fields : List (Text × JsonValue)) →
    JsonValue.WellReadFields fields → JsonValue.allPairedFields fields
  | [], _ => rfl
  | (_, value) :: rest, read => by
      rw [JsonValue.allPairedFields, Bool.and_eq_true, Bool.and_eq_true]
      exact ⟨⟨read.1, JsonValue.WellRead.allPaired value read.2.1⟩,
        JsonValue.WellReadFields.allPaired rest read.2.2⟩

end

mutual

/-- A document that fits is read again when its texts and keys allow it. -/
theorem JsonValue.wellRead_of_fits : (value : JsonValue) → {budget : Nat} →
    value.fits budget → value.allPaired → value.keysDistinct → value.WellRead
  | .scalar .null, _, _, _, _ => trivial
  | .scalar (.bool _), _, _, _, _ => trivial
  | .scalar (.int number), _, fits, _, _ => by
      simp only [JsonValue.fits, Option.isNone_iff_eq_none, intReprError,
        ite_eq_right_iff, reduceCtorEq, imp_false, Nat.not_lt] at fits
      exact fits
  | .scalar (.float _), _, fits, _, _ => by simp [JsonValue.fits] at fits
  | .string _, _, _, pairs, _ => pairs
  | .array _, 0, fits, _, _ => by simp [JsonValue.fits] at fits
  | .array items, budget + 1, fits, pairs, distinct =>
      JsonValue.wellReadItems_of_fits items fits pairs distinct
  | .object _, 0, fits, _, _ => by simp [JsonValue.fits] at fits
  | .object fields, budget + 1, fits, pairs, distinct => by
      rw [JsonValue.keysDistinct, Bool.and_eq_true, decide_eq_true_eq]
        at distinct
      exact ⟨distinct.1,
        JsonValue.wellReadFields_of_fits fields fits pairs distinct.2⟩

theorem JsonValue.wellReadItems_of_fits : (items : List JsonValue) →
    {budget : Nat} → JsonValue.fitsItems budget items →
    JsonValue.allPairedItems items → JsonValue.keysDistinctItems items →
    JsonValue.WellReadItems items
  | [], _, _, _, _ => trivial
  | item :: rest, budget, fits, pairs, distinct => by
      rw [JsonValue.fitsItems, Bool.and_eq_true] at fits
      rw [JsonValue.allPairedItems, Bool.and_eq_true] at pairs
      rw [JsonValue.keysDistinctItems, Bool.and_eq_true] at distinct
      exact ⟨JsonValue.wellRead_of_fits item fits.1 pairs.1 distinct.1,
        JsonValue.wellReadItems_of_fits rest fits.2 pairs.2 distinct.2⟩

theorem JsonValue.wellReadFields_of_fits :
    (fields : List (Text × JsonValue)) → {budget : Nat} →
    JsonValue.fitsFields budget fields → JsonValue.allPairedFields fields →
    JsonValue.keysDistinctFields fields → JsonValue.WellReadFields fields
  | [], _, _, _, _ => trivial
  | (_, value) :: rest, budget, fits, pairs, distinct => by
      rw [JsonValue.fitsFields, Bool.and_eq_true] at fits
      rw [JsonValue.allPairedFields, Bool.and_eq_true, Bool.and_eq_true]
        at pairs
      rw [JsonValue.keysDistinctFields, Bool.and_eq_true] at distinct
      exact ⟨pairs.1.1,
        JsonValue.wellRead_of_fits value fits.1 pairs.1.2 distinct.1,
        JsonValue.wellReadFields_of_fits rest fits.2 pairs.2 distinct.2⟩

end

end Values

mutual

theorem JsonValue.nests_of_fits : (value : JsonValue) → {budget : Nat} →
    value.fits budget → value.nests budget
  | .scalar _, _, _ => by simp only [JsonValue.nests]
  | .string _, _, _ => by simp only [JsonValue.nests]
  | .array _, 0, fits => by simp [JsonValue.fits] at fits
  | .array items, _ + 1, fits => JsonValue.nestsItems_of_fits items fits
  | .object _, 0, fits => by simp [JsonValue.fits] at fits
  | .object fields, _ + 1, fits => JsonValue.nestsFields_of_fits fields fits

theorem JsonValue.nestsItems_of_fits : (items : List JsonValue) →
    {budget : Nat} → JsonValue.fitsItems budget items →
    JsonValue.nestsItems budget items
  | [], _, _ => by simp only [JsonValue.nestsItems]
  | item :: rest, _, fits => by
      rw [JsonValue.fitsItems, Bool.and_eq_true] at fits
      rw [JsonValue.nestsItems, Bool.and_eq_true]
      exact ⟨JsonValue.nests_of_fits item fits.1,
        JsonValue.nestsItems_of_fits rest fits.2⟩

theorem JsonValue.nestsFields_of_fits : (fields : List (Text × JsonValue)) →
    {budget : Nat} → JsonValue.fitsFields budget fields →
    JsonValue.nestsFields budget fields
  | [], _, _ => by simp only [JsonValue.nestsFields]
  | (_, value) :: rest, _, fits => by
      rw [JsonValue.fitsFields, Bool.and_eq_true] at fits
      rw [JsonValue.nestsFields, Bool.and_eq_true]
      exact ⟨JsonValue.nests_of_fits value fits.1,
        JsonValue.nestsFields_of_fits rest fits.2⟩

end

/-- A document within the budget always dumps. -/
theorem jsonDumps_of_fits [PythonRuntime] {value : JsonValue} {budget : Nat}
    (inside : value.fits budget) (room : budget ≤ 100) :
    jsonDumps value = .ok value.sortKeys.render := by
  have within : 0 + budget ≤ jsonNestingLimit := by
    have large := PythonRuntime.jsonNestingLimit_large
    omega
  simp only [jsonDumps, value.dumpsError_fits inside within]

/-- An object whose keys are in order keeps its fields in place. -/
theorem JsonValue.sortKeys_ordered {fields : List (Text × JsonValue)}
    (ordered : fields.Pairwise fun left right => left.1 ≤ right.1) :
    (JsonValue.object fields).sortKeys = .object (sortFields fields) := by
  have pairwise : (sortFields fields).Pairwise fieldLe := by
    induction fields with
    | nil => exact .nil
    | cons entry rest ih =>
        obtain ⟨key, value⟩ := entry
        rw [List.pairwise_cons] at ordered
        refine .cons ?_ (ih ordered.2)
        exact forall_mem_sortFields (P := fun name _ => key ≤ name).mpr
          ordered.1
  rw [sortKeys, pairwise.insertionSort_eq]

end ParityGrid.Foundation
