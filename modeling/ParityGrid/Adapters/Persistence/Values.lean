import ParityGrid.Foundation.JsonReading
import ParityGrid.Foundation.Validation

/-!
# Canonical storage JSON

A document is stored as the one text that dumps it: reading the text back and
dumping the result gives the text again.
-/

namespace ParityGrid.Adapters.Persistence

open ParityGrid.Foundation

section Primitives

variable [PythonRuntime]

mutual

/-- `_validate_primitive`. -/
def validatePrimitive : JsonValue → Except PythonError Unit
  | .scalar (.float _) => .error (.typeError (text
      "storage JSON supports only closed JSON primitives without floats"))
  | .scalar _ => .ok ()
  | .string value => require (nfc value == value) (.valueError (text
      "storage JSON strings must use NFC normalization"))
  | .array items => validatePrimitiveItems items
  | .object fields => validatePrimitiveFields fields

def validatePrimitiveItems : List JsonValue → Except PythonError Unit
  | [] => .ok ()
  | item :: rest => do
      validatePrimitive item
      validatePrimitiveItems rest

def validatePrimitiveFields :
    List (Text × JsonValue) → Except PythonError Unit
  | [] => .ok ()
  | (key, value) :: rest => do
      require (nfc key == key) (.valueError (text
        "storage JSON strings must use NFC normalization"))
      validatePrimitive value
      validatePrimitiveFields rest

end

end Primitives

variable [JsonRuntime]

/-- `_decode_json`. -/
def decodeJson (value : Text) : Except PythonError JsonValue :=
  match jsonLoads value with
  | .error .malformed =>
      .error (.valueError (text "storage JSON is not valid"))
  | .error .digits =>
      .error (.valueError (text
        "Exceeds the limit (4300 digits) for integer string conversion"))
  | .error .nesting => .error .recursionError
  | .ok decoded => do
      require decoded.closed (.valueError (text
        "storage JSON does not support floating-point numbers"))
      validatePrimitive decoded
      return decoded

/-- Deterministic JSON storage text. -/
structure CanonicalStorageJson where
  text : Text
  canonical : (decodeJson text >>= jsonDumps) = .ok text

namespace CanonicalStorageJson

/-- `CanonicalStorageJson(text)`. -/
def create (value : Text) : Except PythonError CanonicalStorageJson :=
  match dumped : decodeJson value >>= jsonDumps with
  | .error error => .error error
  | .ok canonical =>
      if same : canonical = value then .ok ⟨value, by rw [dumped, same]⟩
      else .error (.valueError (Foundation.text
        "storage JSON must use its canonical representation"))

/-- `CanonicalStorageJson.encode`. -/
def encode (value : JsonValue) : Except PythonError CanonicalStorageJson := do
  validatePrimitive value
  create (← jsonDumps value)

theorem create_text {value : Text} {created : CanonicalStorageJson}
    (made : create value = .ok created) : created.text = value := by
  simp only [create] at made
  split at made
  · cases made
  · split at made
    · cases made
      rfl
    · cases made

theorem encode_dumps {value : JsonValue} {encoded : CanonicalStorageJson}
    (made : encode value = .ok encoded) :
    jsonDumps value = .ok encoded.text := by
  simp only [encode, bind_eq_ok] at made
  obtain ⟨_, _, dumped, dumps, created⟩ := made
  rw [dumps, create_text created]

/-- `CanonicalStorageJson.decode`. -/
def decode (stored : CanonicalStorageJson) : Except PythonError JsonValue :=
  decodeJson stored.text

/-- What is decoded dumps to the text again. -/
theorem decode_dumps {stored : CanonicalStorageJson} {value : JsonValue}
    (decoded : stored.decode = .ok value) :
    jsonDumps value = .ok stored.text := by
  have canonical := stored.canonical
  rwa [show decodeJson stored.text = .ok value from decoded] at canonical

end CanonicalStorageJson

end ParityGrid.Adapters.Persistence
