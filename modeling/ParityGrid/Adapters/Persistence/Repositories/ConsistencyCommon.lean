import ParityGrid.Adapters.Persistence.Values
import ParityGrid.Application.Ports.Consistency

/-!
# Validation and encoding for consistency storage

Requests are refused with `ConsistencyInvalidRequestError`; the same check on
a stored value raises `ConsistencyCorruptionError`.
-/

namespace ParityGrid.Adapters.Persistence

open ParityGrid.Foundation ParityGrid.Application

def maxConsistencySequence : Int := 2147483647

def maxCanonicalDocumentBytes : Nat := 1000000

/-- What `except ConsistencyInvalidRequestError` turns into corruption. -/
def stored {α : Type} (subject : String) (checked : Except ConsistencyError α) :
    Except ConsistencyError α :=
  checked.mapError fun
    | .invalidRequest _ => .corruption (subject ++ " is corrupt")
    | error => error

theorem stored_eq_ok {α : Type} {subject : String}
    {checked : Except ConsistencyError α} {value : α} :
    stored subject checked = .ok value ↔ checked = .ok value := by
  cases checked <;> simp [stored, Except.mapError]

/-! ## Identities -/

section Identities

variable [PythonRuntime]

/-- `bounded_text`. -/
def boundedText (value : Text) (subject : String) (maximum : Nat) :
    Except ConsistencyError Unit := do
  require (1 ≤ value.length && value.length ≤ maximum)
    (.invalidRequest (subject ++ " has an invalid length"))
  require (nfc value == value)
    (.invalidRequest (subject ++ " must use normalized Unicode"))

/-- `_PORTABLE_IDENTITY_PATTERN.fullmatch`. -/
def isPortableIdentity : Text → Bool
  | [] => false
  | c :: rest =>
      let isAlphanumeric := fun d : CodePoint =>
        isUpper d || isLower d || isDigit d
      isAlphanumeric c && rest.all fun d =>
        isAlphanumeric d || (text "._:-").contains d

/-- `portable_identity`. -/
def portableIdentity (value : Text) (subject : String) (maximum : Nat) :
    Except ConsistencyError Text := do
  boundedText value subject maximum
  require (isPortableIdentity value)
    (.invalidRequest (subject ++ " must use portable ASCII"))
  return value

theorem portableIdentity_eq_ok {value identity : Text}
    {subject : String} {maximum : Nat}
    (checked : portableIdentity value subject maximum = .ok identity) :
    identity = value := by
  simp only [portableIdentity, check_bind_eq_ok] at checked
  exact (Except.ok.inj checked.2.2).symm

/-- Where the match of a scope stands. -/
inductive ScopePlace where
  /-- A part begins with a letter. -/
  | part
  /-- Within a segment. -/
  | inside
  /-- After a dash or an underscore. -/
  | segment

/-- The rest of `_IDEMPOTENCY_SCOPE_PATTERN`, from a place within it. -/
def matchScope : ScopePlace → Text → Bool
  | .inside, [] => true
  | _, [] => false
  | .part, c :: rest => isLower c && matchScope .inside rest
  | .segment, c :: rest => isLowerAlphanumeric c && matchScope .inside rest
  | .inside, c :: rest =>
      if isLowerAlphanumeric c then matchScope .inside rest
      else if c = point ':' then matchScope .part rest
      else (c = point '-' || c = point '_') && matchScope .segment rest

/-- `idempotency_scope`. -/
def idempotencyScope (value : Text) : Except ConsistencyError Text := do
  boundedText value "idempotency scope" 96
  require (matchScope .part value)
    (.invalidRequest "idempotency scope must use canonical lowercase ASCII")
  return value

theorem idempotencyScope_eq_ok {value scope : Text}
    (checked : idempotencyScope value = .ok scope) : scope = value := by
  simp only [idempotencyScope, check_bind_eq_ok] at checked
  exact (Except.ok.inj checked.2.2).symm

end Identities

/-- `positive_int`. -/
def positiveInt (value : Int) (subject : String) :
    Except ConsistencyError Int := do
  require (1 ≤ value && value ≤ maxConsistencySequence)
    (.invalidRequest
      (subject ++ " must be an integer within the supported range"))
  return value

/-! ## Documents -/

variable [CasefoldRuntime]

/-- `_encode_mapping`. -/
def encodeMapping (value : JsonValue) (subject : String) :
    Except ConsistencyError CanonicalStorageJson := do
  let encoded ← (CanonicalStorageJson.encode value).mapError fun error =>
    if error.isTypeOrValueError then
      ConsistencyError.invalidRequest (subject ++ " is invalid")
    else .runtime error
  let bytes ← (encodeUtf8 encoded.text).mapError .runtime
  require (bytes.length ≤ maxCanonicalDocumentBytes)
    (.invalidRequest (subject ++ " exceeds the supported encoded size"))
  return encoded

/-- `encode_redacted_document`. -/
def encodeRedactedDocument (document : RedactedDocument) (subject : String) :
    Except ConsistencyError CanonicalStorageJson :=
  encodeMapping document.toMapping subject

/-- `request_digest`. -/
def requestDigest (document : ConfigurationDocument) :
    Except ConsistencyError Text := do
  let encoded ← encodeMapping document.toMapping "idempotency request"
  let bytes ← (encodeUtf8 encoded.text).mapError .runtime
  return (sha256 bytes).hex

/-- `_decode_mapping`. -/
def decodeMapping (value : Option Text) (subject : String) :
    Except ConsistencyError (List (Text × JsonValue)) :=
  let corrupt := ConsistencyError.corruption (subject ++ " is corrupt")
  match value with
  | none => .error corrupt
  | some stored => do
      let read := CanonicalStorageJson.create stored >>= fun json => json.decode
      let decoded ← read.mapError fun error =>
        if error.isTypeOrValueError then corrupt else .runtime error
      match decoded with
      | .object fields => return fields
      | _ => throw corrupt

/-- `decode_redacted_document`. -/
def decodeRedactedDocument (value : Option Text) (subject : String) :
    Except ConsistencyError RedactedDocument := do
  let fields ← decodeMapping value subject
  (RedactedDocument.fromMapping fields).mapError fun
    | .invalidRequest _ => .corruption (subject ++ " is corrupt")
    | .runtime error =>
        if error.isTypeOrValueError then
          .corruption (subject ++ " is corrupt")
        else .runtime error
    | error => error

/-! ## What is stored is read back -/

theorem encodeMapping_dumps {value : JsonValue} {subject : String}
    {encoded : CanonicalStorageJson}
    (stored : encodeMapping value subject = .ok encoded) :
    jsonDumps value = .ok encoded.text := by
  simp only [encodeMapping, bind_eq_ok, mapError_eq_ok] at stored
  obtain ⟨written, writes, _, _, _, _, same⟩ := stored
  cases same
  exact CanonicalStorageJson.encode_dumps writes

/-- A mapping that is decoded dumps to the text it was decoded from. -/
theorem decodeMapping_dumps {stored : Text} {subject : String}
    {fields : List (Text × JsonValue)}
    (decoded : decodeMapping (some stored) subject = .ok fields) :
    jsonDumps (.object fields) = .ok stored := by
  simp only [decodeMapping, bind_eq_ok, mapError_eq_ok] at decoded
  obtain ⟨value, ⟨json, created, reads⟩, made⟩ := decoded
  rw [← CanonicalStorageJson.create_text created]
  split at made
  · cases made
    exact CanonicalStorageJson.decode_dumps reads
  · cases made

/-- A document that is decoded is in key order, and dumps to its text. -/
theorem decodeRedactedDocument_dumps {stored : Text} {subject : String}
    {document : RedactedDocument}
    (decoded : decodeRedactedDocument (some stored) subject = .ok document) :
    jsonDumps document.toMapping = .ok stored ∧
      document.toMapping.sortKeys = document.toMapping := by
  simp only [decodeRedactedDocument, bind_eq_ok, mapError_eq_ok] at decoded
  obtain ⟨fields, read, made⟩ := decoded
  rw [RedactedDocument.fromMapping_toMapping made]
  refine ⟨?_, JsonValue.sortKeys_sortKeys _⟩
  rw [jsonDumps_congr (JsonValue.sortKeys_sortKeys _)]
  exact decodeMapping_dumps read

end ParityGrid.Adapters.Persistence
