import ParityGrid.Application.Ports.ConnectorRedaction
import ParityGrid.Foundation.Ascii

/-!
# The subordinate codec

A request or a response crosses the process boundary as canonical ASCII JSON.
Payloads are closed: bounded containers of texts, integers, booleans and nulls,
without secret markers or path shapes.  A decoder encodes what it read again
and refuses bytes that differ.
-/

namespace ParityGrid.Adapters.Runners

open ParityGrid.Foundation
open ParityGrid.Application (lowered)

def subordinateCodecVersion : Int := 1

def maxOperationIdLength : Nat := 64

def maxPayloadBytes : Nat := 1048576

def maxPayloadDepth : Nat := 4

def maxListItems : Nat := 256

def maxMapEntries : Nat := 64

def maxTextLength : Nat := 4096

inductive SubordinateFailure where
  /-- `SubordinateCodecError` itself. -/
  | codec (message : String)
  /-- `SubordinateOperationError`. -/
  | operation (message : String)
  /-- `SubordinatePayloadError`. -/
  | payload (message : String)
  | recursionError
deriving DecidableEq

/-- The classes below `SubordinateCodecError`. -/
def SubordinateFailure.isCodecError : SubordinateFailure → Bool
  | .codec _ => true
  | .operation _ => true
  | .payload _ => true
  | .recursionError => false

/-! ## Operations -/

/-- The registered operations. -/
inductive SubordinateOperation where
  | sha256Digest
  | sortIntegers
deriving DecidableEq

def SubordinateOperation.id : SubordinateOperation → Text
  | .sha256Digest => text "sha256_digest"
  | .sortIntegers => text "sort_integers"

/-- `_ALLOWED_ROOTS[operation]`. -/
def SubordinateOperation.version : SubordinateOperation → Int
  | .sha256Digest => 1
  | .sortIntegers => 1

/-- The operation of a registered id. -/
def SubordinateOperation.parse (operationId : Text) :
    Option SubordinateOperation :=
  [SubordinateOperation.sha256Digest, .sortIntegers].find?
    fun operation => operation.id == operationId

theorem SubordinateOperation.parse_eq_some {operationId : Text}
    {operation : SubordinateOperation} :
    parse operationId = some operation ↔ operationId = operation.id := by
  constructor
  · intro found
    rw [parse] at found
    have same := List.find?_some found
    exact (beq_iff_eq.mp same).symm
  · rintro rfl
    cases operation <;> decide

/-- `_validate_operation`, of a text. -/
def requireOperation (operationId : Text) :
    Except SubordinateFailure SubordinateOperation := do
  require (1 ≤ operationId.length && operationId.length ≤ maxOperationIdLength)
    (.operation "operation id length is outside the bound")
  require (operationId.all fun c => 0x20 ≤ c.val && c.val ≤ 0x7E)
    (.operation "operation id must use printable ASCII")
  match SubordinateOperation.parse operationId with
  | none => .error (.operation "operation is not registered")
  | some operation => .ok operation

/-- `_validate_operation`, of what a document holds. -/
def validateOperation (value : Option JsonValue) :
    Except SubordinateFailure SubordinateOperation :=
  match value with
  | some (.string operationId) => requireOperation operationId
  | _ => .error (.operation "operation id must be text")

/-! ## Payloads -/

/-- `_FORBIDDEN_KEY_PARTS`. -/
def forbiddenKeyParts : List Text :=
  ["password", "secret", "token", "credential", "api_key", "authorization",
    "session"].map text

/-- `_PATH_SHAPE_PREFIXES`. -/
def pathShapes : List Text :=
  ["/", "\\", "c:", "http://", "https://", "file:"].map text

section Values

variable [JsonRuntime]

/-- `_validate_value`, of a text. -/
def validateText (t : Text) (depth : Nat) (subject : String) :
    Except SubordinateFailure Unit := do
  require (depth ≤ maxPayloadDepth)
    (.payload (subject ++ " exceeds the nesting bound"))
  require (t.length ≤ maxTextLength)
    (.payload (subject ++ " text exceeds the bound"))
  require (forbiddenKeyParts.all fun part =>
      !decide (part <:+: lowered (strip t)))
    (.payload (subject ++ " contains a secret marker"))
  require (pathShapes.all fun shape => !shape.isPrefixOf (lowered (strip t)))
    (.payload (subject ++ " contains a path shape"))

mutual

/-- `_validate_value`; a value of any other type is refused as a float is. -/
def validateValue (depth : Nat) (subject : String) :
    JsonValue → Except SubordinateFailure Unit
  | .string t => validateText t depth subject
  | .scalar value => do
      require (depth ≤ maxPayloadDepth)
        (.payload (subject ++ " exceeds the nesting bound"))
      match value with
      | .null => .ok ()
      | .bool _ => .ok ()
      | .int number =>
          require (-9007199254740992 ≤ number && number ≤ 9007199254740992)
            (.payload (subject ++ " integer is outside the bound"))
      | .float _ =>
          .error (.payload (subject ++ " uses an unsupported primitive"))
  | .array items => do
      require (depth ≤ maxPayloadDepth)
        (.payload (subject ++ " exceeds the nesting bound"))
      require (items.length ≤ maxListItems)
        (.payload (subject ++ " list exceeds the item bound"))
      validateItems (depth + 1) subject items
  | .object fields => do
      require (depth ≤ maxPayloadDepth)
        (.payload (subject ++ " exceeds the nesting bound"))
      require (fields.length ≤ maxMapEntries)
        (.payload (subject ++ " map exceeds the entry bound"))
      validateFields (depth + 1) subject fields

def validateItems (depth : Nat) (subject : String) :
    List JsonValue → Except SubordinateFailure Unit
  | [] => .ok ()
  | item :: rest => do
      validateValue depth subject item
      validateItems depth subject rest

def validateFields (depth : Nat) (subject : String) :
    List (Text × JsonValue) → Except SubordinateFailure Unit
  | [] => .ok ()
  | (key, item) :: rest => do
      validateText key depth subject
      validateValue depth subject item
      validateFields depth subject rest

end

/-! ## Envelopes -/

/-- `json.dumps(document, ..).encode("ascii")`, within the byte bound. -/
def encodeDocument (document : JsonValue) (subject : String) :
    Except SubordinateFailure Bytes :=
  match jsonDumps document with
  | .error error =>
      if error.isTypeOrValueError then
        .error (.payload (subject ++ " is not canonical ASCII JSON"))
      else .error .recursionError
  | .ok t => do
      require ((encodeAscii t).length ≤ maxPayloadBytes)
        (.payload (subject ++ " exceeds the byte bound"))
      return encodeAscii t

/-- A payload or a result, once it is known to be a mapping. -/
def requireMapping (value : Option JsonValue) (subject : String) :
    Except SubordinateFailure JsonValue :=
  match value with
  | some (.object fields) => .ok (.object fields)
  | _ => .error (.payload (subject ++ " must be a primitive mapping"))

def requestDocument (operation : SubordinateOperation)
    (operationVersion : Int) (payload : JsonValue) : JsonValue :=
  .object [(text "codec_version", .int subordinateCodecVersion),
    (text "operation", .string operation.id),
    (text "operation_version", .int operationVersion),
    (text "payload", payload)]

/-- `encode_request`. -/
def encodeRequest (operationId : Text) (operationVersion : Int)
    (payload : JsonValue) : Except SubordinateFailure Bytes := do
  let operation ← requireOperation operationId
  require (1 ≤ operationVersion && operationVersion ≤ 2147483647)
    (.operation "operation version is invalid")
  require (operationVersion == operation.version)
    (.operation "operation version is not registered")
  let requestPayload ← requireMapping (some payload) "payload"
  validateValue 0 "payload" requestPayload
  encodeDocument (requestDocument operation operationVersion requestPayload)
    "payload"

/-- What is read of the bytes, with the subject that its failures name. -/
def loadDocument (data : Bytes) (subject : String) :
    Except SubordinateFailure (List (Text × JsonValue)) := do
  require (data.length ≤ maxPayloadBytes)
    (.payload (subject ++ " exceeds the byte bound"))
  match decodeAscii data with
  | none => .error (.payload (subject ++ " is not canonical ASCII JSON"))
  | some t =>
      match jsonLoads t with
      | .error .nesting => .error .recursionError
      | .error _ => .error (.payload (subject ++ " is not canonical ASCII JSON"))
      | .ok (.object document) => .ok document
      | .ok _ => .error (.payload (subject ++ " must be an object"))

/-- Whether a value equals the codec version; a float is one by its text. -/
def isCodecVersion : Option JsonValue → Bool
  | some (.int number) => number == subordinateCodecVersion
  | some (.bool value) => value
  | some (.float value) => value.value == text "1.0"
  | _ => false

/-- The version of a request, once it is the registered one. -/
def requireVersion (operation : SubordinateOperation)
    (value : Option JsonValue) : Except SubordinateFailure Int :=
  match value with
  | some (.int version) => do
      require (version == operation.version)
        (.operation "operation version is not registered")
      return version
  | _ => .error (.operation "operation version is not registered")

/-- `decode_request`. -/
def decodeRequest (data : Bytes) :
    Except SubordinateFailure (Text × Int × JsonValue) := do
  let document ← loadDocument data "request"
  require (isCodecVersion (document.lookup (text "codec_version")))
    (.codec "request codec version is unknown")
  let operation ← validateOperation (document.lookup (text "operation"))
  let version ← requireVersion operation
    (document.lookup (text "operation_version"))
  let payload ← requireMapping (document.lookup (text "payload")) "payload"
  validateValue 0 "payload" payload
  let canonical ← encodeRequest operation.id version payload
  require (canonical == data)
    (.payload "request is not canonically encoded")
  return (operation.id, version, payload)

def responseDocument (operation : SubordinateOperation) (result : JsonValue) :
    JsonValue :=
  .object [(text "codec_version", .int subordinateCodecVersion),
    (text "operation", .string operation.id), (text "result", result)]

/-- `encode_response`. -/
def encodeResponse (operationId : Text) (result : JsonValue) :
    Except SubordinateFailure Bytes := do
  let operation ← requireOperation operationId
  let responseResult ← requireMapping (some result) "result"
  validateValue 0 "result" responseResult
  encodeDocument (responseDocument operation responseResult) "result"

/-- `decode_response`. -/
def decodeResponse (data : Bytes) :
    Except SubordinateFailure (Text × JsonValue) := do
  let document ← loadDocument data "response"
  require (isCodecVersion (document.lookup (text "codec_version")))
    (.codec "response codec version is unknown")
  let operation ← validateOperation (document.lookup (text "operation"))
  let result ← requireMapping (document.lookup (text "result")) "result"
  validateValue 0 "result" result
  let canonical ← encodeResponse operation.id result
  require (canonical == data)
    (.payload "response is not canonically encoded")
  return (operation.id, result)

end Values

/-! ## Registered operations -/

/-- The blanks that `bytes.fromhex` skips. -/
def isHexBlank (c : CodePoint) : Bool :=
  (9 ≤ c.val && c.val ≤ 13) || c.val == 32

/-- `bytes.fromhex(t)`. -/
def fromHex : Text → Option Bytes
  | [] => some []
  | c :: rest =>
      if isHexBlank c then fromHex rest
      else
        match rest with
        | [] => none
        | d :: later => do
            let high ← hexValue c
            let low ← hexValue d
            let others ← fromHex later
            return Fin.ofNat _ (16 * high + low) :: others

/-- `execute_sha256_digest`. -/
def executeSha256Digest (payload : JsonValue) :
    Except SubordinateFailure JsonValue :=
  match payload.field (text "data_hex") with
  | some (.string dataHex) => do
      require (dataHex != [])
        (.payload "sha256_digest requires a hex payload")
      match fromHex dataHex with
      | none => .error (.payload "sha256_digest payload is not hex")
      | some data =>
          .ok (.object [(text "digest", .string (sha256 data).hex)])
  | _ => .error (.payload "sha256_digest requires a hex payload")

/-- An item of `sort_integers`; a boolean is none. -/
def requireInteger (item : JsonValue) : Except SubordinateFailure Int :=
  match item with
  | .int number => .ok number
  | _ => .error (.payload "sort_integers requires an integer list")

/-- `execute_sort_integers`. -/
def executeSortIntegers (payload : JsonValue) :
    Except SubordinateFailure JsonValue :=
  match payload.field (text "values") with
  | some (.array items) => do
      let numbers ← items.mapM requireInteger
      return .object [(text "sorted", .array ((sorted numbers).map .int))]
  | _ => .error (.payload "sort_integers requires an integer list")

/-- `dispatch_registered_operation`. -/
def dispatchRegisteredOperation (operationId : Text) (payload : JsonValue) :
    Except SubordinateFailure JsonValue := do
  let operation ← requireOperation operationId
  match operation with
  | .sha256Digest => executeSha256Digest payload
  | .sortIntegers => executeSortIntegers payload

end ParityGrid.Adapters.Runners
