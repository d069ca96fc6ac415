import ParityGrid.Application.Ports.Consistency

/-!
# Flat documents

Event payloads are flat: every field holds a scalar or a short text.  Such a
mapping freezes into a document whatever its values are, and the document is
redacted as soon as no field is named after a secret.
-/

namespace ParityGrid.Application

open ParityGrid.Foundation

section Flat

variable [PythonRuntime]

/-- A short normalized key with a scalar or a short normalized text. -/
def isFlatField (item : Text × JsonValue) : Bool :=
  (item.1.length ≤ maxDocumentKeyLength && nfc item.1 == item.1) &&
    match item.2 with
    | .scalar (.float _) => false
    | .scalar _ => true
    | .string value =>
        value.length ≤ maxDocumentStringLength && nfc value == value
    | _ => false

theorem isFlatField_ascii {key value : Text} (keyAscii : key.all isAscii)
    (keyLength : key.length ≤ maxDocumentKeyLength)
    (ascii : value.all isAscii)
    (length : value.length ≤ maxDocumentStringLength) :
    isFlatField (key, .string value) = true := by
  simp [isFlatField, PythonRuntime.nfc_ascii _ keyAscii,
    PythonRuntime.nfc_ascii _ ascii, keyLength, length, -List.all_eq_true]

theorem walkFields_flat {canonical : Bool} {message : String}
    {fields : List (Text × JsonValue)} {budget : Nat}
    (flat : ∀ item ∈ fields, isFlatField item = true)
    (few : budget + fields.length ≤ maxDocumentEntries) :
    walkFields canonical message 0 budget fields =
      .ok (budget + fields.length) := by
  induction fields generalizing budget with
  | nil => rfl
  | cons item rest ih =>
      rw [List.forall_mem_cons] at flat
      rw [List.length_cons] at few
      rcases item with ⟨key, value⟩
      rcases Bool.and_eq_true_iff.mp flat.1 with ⟨keyFlat, valueFlat⟩
      have keyChecked : checkNormalizedText key true = .ok () := by
        simp only [Bool.and_eq_true, decide_eq_true_eq] at keyFlat
        simp [checkNormalizedText, keyFlat.1, keyFlat.2]
      have counted : consumeEntry budget = .ok (budget + 1) := by
        have below : budget + 1 ≤ maxDocumentEntries := by omega
        simp only [consumeEntry, below, decide_true, require_true, ok_bind]
        rfl
      have valueChecked : walkValue canonical message 1 (budget + 1) value =
          .ok (budget + 1) := by
        match value with
        | .scalar (.float _) => cases valueFlat
        | .scalar .null => rfl
        | .scalar (.bool _) => rfl
        | .scalar (.int _) => rfl
        | .string value =>
            simp only [Bool.and_eq_true, decide_eq_true_eq] at valueFlat
            simp only [walkValue]
            have depth : checkDepth 1 = .ok () := rfl
            have checked : checkNormalizedText value false = .ok () := by
              simp [checkNormalizedText, valueFlat.1, valueFlat.2]
            rw [depth, ok_bind, checked, ok_bind]
            rfl
        | .array _ => cases valueFlat
        | .object _ => cases valueFlat
      rw [walkFields, keyChecked, ok_bind, counted, ok_bind, valueChecked,
        ok_bind, ih flat.2 (by omega), List.length_cons]
      congr 1
      omega

theorem sortFields_flat {fields : List (Text × JsonValue)}
    (flat : ∀ item ∈ fields, isFlatField item = true) :
    JsonValue.sortFields fields = fields := by
  apply JsonValue.sortFields_eq_self
  intro item member
  have flat := flat item member
  rcases item with ⟨key, value⟩
  rcases Bool.and_eq_true_iff.mp flat with ⟨_, valueFlat⟩
  match value with
  | .scalar _ => rfl
  | .string _ => rfl
  | .array _ => cases valueFlat
  | .object _ => cases valueFlat

/-- A flat mapping with distinct keys makes a document. -/
theorem ConfigurationDocument.fromMapping_flat
    {fields : List (Text × JsonValue)}
    (distinct : (fields.map Prod.fst).Nodup)
    (flat : ∀ item ∈ fields, isFlatField item = true)
    (few : fields.length ≤ maxDocumentEntries) :
    Returns (ConfigurationDocument.fromMapping fields) := by
  have frozen : freezeObject fields = .ok (fields.insertionSort fieldLe) := by
    have walked : walkFields false
        "configuration document values must be JSON-compatible without floats"
        0 0 fields = .ok (0 + fields.length) :=
      walkFields_flat flat (by omega)
    have depth : checkDepth 0 = .ok () := rfl
    have order : checkKeyOrder false fields = .ok () := rfl
    rw [freezeObject, walkValue, depth, ok_bind, walked, ok_bind, order,
      sortFields_flat flat]
    rfl
  have perm := List.perm_insertionSort fieldLe fields
  have valid : validateDocumentObject (fields.insertionSort fieldLe) =
      .ok () := by
    have walked : walkFields true
        "configuration document values must be immutable structural values"
        0 0 (fields.insertionSort fieldLe) =
          .ok (0 + (fields.insertionSort fieldLe).length) :=
      walkFields_flat (fun item member => flat item (perm.mem_iff.mp member))
        (by rw [perm.length_eq]; omega)
    have depth : checkDepth 0 = .ok () := rfl
    have order : checkKeyOrder true (fields.insertionSort fieldLe) =
        .ok () := by
      have keys : sortedBy id ((fields.insertionSort fieldLe).map Prod.fst) =
          (fields.insertionSort fieldLe).map Prod.fst := by
        apply sortedBy_of_pairwise
        rw [List.pairwise_map]
        exact List.pairwise_insertionSort fieldLe fields
      have nodup : ((fields.insertionSort fieldLe).map Prod.fst).Nodup :=
        (perm.map Prod.fst).nodup_iff.mpr distinct
      simp [checkKeyOrder, keys, nodup]
    rw [validateDocumentObject, walkValue, depth, ok_bind, walked, ok_bind,
      order]
    rfl
  refine ⟨⟨fields.insertionSort fieldLe, valid⟩, ?_⟩
  rw [ConfigurationDocument.fromMapping, frozen, ok_bind,
    ConfigurationDocument.create]
  split
  next => rfl
  next error raised =>
    rw [valid] at raised
    cases raised

end Flat

section Redaction

variable [CasefoldRuntime]

theorem isRedactedFields_iff {fields : List (Text × JsonValue)} :
    isRedactedFields fields = true ↔
      ∀ item ∈ fields, isSensitiveKey item.1 = false ∧
        isRedacted item.2 = true := by
  induction fields with
  | nil => simp [isRedactedFields]
  | cons item rest ih =>
      rw [isRedactedFields, List.forall_mem_cons, ← ih]
      simp [and_assoc]

/-- The name of an ASCII field, compared without the runtime. -/
theorem normalizedKey_ascii {key : Text} (ascii : (splitCamel key).all isAscii) :
    normalizedKey key =
      stripUnderscores (joinNonIdentifiers false (lower (splitCamel key))) := by
  rw [normalizedKey, PythonRuntime.nfc_ascii _ ascii,
    CasefoldRuntime.casefold_ascii _ ascii]

/-- A key of ASCII characters that contains no sensitive part. -/
def isHarmlessKey (key : Text) : Bool :=
  (splitCamel key).all isAscii &&
    !sensitiveKeyParts.any fun part =>
      decide (point '_' :: part ++ [point '_'] <:+:
        point '_' :: stripUnderscores (joinNonIdentifiers false
          (lower (splitCamel key))) ++ [point '_'])

theorem isSensitiveKey_harmless {key : Text} (harmless : isHarmlessKey key) :
    isSensitiveKey key = false := by
  rw [isHarmlessKey, Bool.and_eq_true, Bool.not_eq_true'] at harmless
  rw [isSensitiveKey, normalizedKey_ascii harmless.1]
  exact harmless.2

/-- A flat mapping that names no secret makes a redacted document. -/
theorem RedactedDocument.fromMapping_flat {fields : List (Text × JsonValue)}
    (distinct : (fields.map Prod.fst).Nodup)
    (flat : ∀ item ∈ fields, isFlatField item = true)
    (few : fields.length ≤ maxDocumentEntries)
    (plain : ∀ item ∈ fields, isSensitiveKey item.1 = false) :
    Returns (RedactedDocument.fromMapping fields) := by
  rcases ConfigurationDocument.fromMapping_flat distinct flat few with
    ⟨document, made⟩
  have mapping := ConfigurationDocument.fromMapping_toMapping made
  have redacted : isRedacted document.toMapping = true := by
    rw [mapping, JsonValue.sortKeys, sortFields_flat flat]
    show isRedactedFields (fields.insertionSort fieldLe) = true
    rw [isRedactedFields_iff]
    intro item member
    have inside := (List.mem_insertionSort fieldLe).mp member
    refine ⟨plain item inside, ?_⟩
    have flat := flat item inside
    rcases item with ⟨key, value⟩
    rcases Bool.and_eq_true_iff.mp flat with ⟨_, valueFlat⟩
    match value with
    | .scalar _ => rfl
    | .string _ => rfl
    | .array _ => cases valueFlat
    | .object _ => cases valueFlat
  refine ⟨⟨document, redacted⟩, ?_⟩
  rw [RedactedDocument.fromMapping, made]
  show RedactedDocument.create document = _
  rw [RedactedDocument.create, dif_pos redacted]

end Redaction

end ParityGrid.Application
