import ParityGrid.Application.Ports.ConnectorRedaction
import ParityGrid.Domain.Pipeline

/-!
# The connector contract

A connector reports its failures as a `ConnectorError` of a closed taxonomy.
Its message and its detail are checked against the registered secrets when it
is built.  A source record is checked when it is built as well: a valid one
carries a bounded payload, a malformed one a reason.
-/

namespace ParityGrid.Application

open ParityGrid.Foundation

def maxCursorLength : Nat := 128

def maxPageRecords : Nat := 200

def maxResponseBytes : Nat := 1048576

def maxRecordFields : Nat := 32

def maxRecordDepth : Nat := 4

def maxRecordListItems : Nat := 64

def maxRecordFieldText : Nat := 1024

/-! ## Failures -/

/-- The classes of connector failures. -/
inductive ConnectorErrorKind where
  | retryable
  | timeout
  | rateLimited
  | serverFailure
  | permanent
  | validation
  | conflict
  | cancelled
  | ambiguous
  | unknown
deriving DecidableEq

/-- `ConnectorError`. -/
structure ConnectorError where
  kind : ConnectorErrorKind
  message : Text
  detail : Text
  retryAfterSeconds : Option Int
deriving DecidableEq

/-- `ConnectorContractError`. -/
def connectorContractError (message : String) : PythonError :=
  .raised (text "ConnectorContractError") false (text message)

/-- What the last gate raises on a text that carries a secret. -/
def leakError : PythonError :=
  redactionError "public text carries registered secret material"

section Failures

variable [PatternRuntime]

omit [PatternRuntime] in
/-- The gate passes a text that carries no registered secret unchanged. -/
theorem assertPublicTextIsSafe_ok {t : Text} {secrets : SecretMaterial}
    (clear : ∀ value ∈ secrets.values, ¬value <:+: t) :
    assertPublicTextIsSafe t secrets = .ok t := by
  have passed : secrets.values.forM (fun value =>
      require (findFrom value t 0).isNone leakError) = .ok () :=
    forM_eq_ok.mpr fun value member => by
      rw [findFrom_zero_eq_none.mpr (clear value member)]
      rfl
  rw [assertPublicTextIsSafe, ← leakError, passed]
  rfl

omit [PatternRuntime] in
/-- A text that carries one is refused. -/
theorem assertPublicTextIsSafe_error {t value : Text}
    {secrets : SecretMaterial} (member : value ∈ secrets.values)
    (carried : value <:+: t) :
    assertPublicTextIsSafe t secrets = .error leakError := by
  have refused : ∀ values : List Text, value ∈ values →
      values.forM (fun value =>
        require (findFrom value t 0).isNone leakError) = .error leakError := by
    intro values member
    induction values with
    | nil => exact absurd member List.not_mem_nil
    | cons first rest ih =>
        show (require (findFrom first t 0).isNone leakError >>= fun _ =>
          rest.forM fun value =>
            require (findFrom value t 0).isNone leakError) = _
        cases found : findFrom first t 0 with
        | some _ => rfl
        | none =>
            rcases List.mem_cons.mp member with rfl | later
            · exact absurd carried (findFrom_zero_eq_none.mp found)
            · exact ih later
  rw [assertPublicTextIsSafe, ← leakError, refused secrets.values member]
  rfl

/-- `ConnectorError(message, detail=…, retry_after_seconds=…, secrets=…)`. -/
def ConnectorError.create (kind : ConnectorErrorKind) (message : Text)
    (detail : Option Text) (retryAfterSeconds : Option Int)
    (secrets : Option SecretMaterial) :
    Except PythonError ConnectorError := do
  let safe (t : Text) :=
    match secrets with
    | none => .ok t
    | some secrets => assertPublicTextIsSafe t secrets
  let safeMessage ← safe message
  let safeDetail ←
    match detail with
    | none => .ok safeMessage
    | some detail => safe detail
  require (retryAfterSeconds.all fun seconds => 1 ≤ seconds && seconds ≤ 60)
    (connectorContractError "retry_after_seconds must be between 1 and 60")
  .ok ⟨kind, safeMessage, cutText maxPublicDetailLength safeDetail,
    retryAfterSeconds⟩

end Failures

/-- `ConnectorValidationError(message)`; without secrets nothing is refused. -/
def connectorValidationError (message : Text) : ConnectorError where
  kind := .validation
  message := message
  detail := cutText maxPublicDetailLength message
  retryAfterSeconds := none

/-! ## Record payloads -/

/-- An unmet check of `validate_source_record_payload`. -/
def refuse (message : String) : ConnectorError :=
  connectorValidationError (text message)

mutual

/-- `validate_value`. -/
def validateValue (depth : Nat) : JsonValue → Except ConnectorError Unit
  | .scalar .null => .ok ()
  | .scalar (.bool _) => .ok ()
  | .scalar (.int value) =>
      require (-2 ^ 53 ≤ value && value ≤ 2 ^ 53)
        (refuse "record integer is outside the safe range")
  | .scalar (.float _) => do
      require (depth < maxRecordDepth)
        (refuse "record payload exceeds the nesting bound")
      .error (refuse "record payload carries an unsupported value type")
  | .string value =>
      require (value.length ≤ maxRecordFieldText)
        (refuse "record text field exceeds the length bound")
  | .object fields => do
      require (depth < maxRecordDepth)
        (refuse "record payload exceeds the nesting bound")
      require (fields.length ≤ maxRecordFields)
        (refuse "record mapping exceeds the field bound")
      validateFields (depth + 1) fields
  | .array items => do
      require (depth < maxRecordDepth)
        (refuse "record payload exceeds the nesting bound")
      require (items.length ≤ maxRecordListItems)
        (refuse "record list exceeds the item bound")
      validateItems (depth + 1) items

def validateFields (depth : Nat) :
    List (Text × JsonValue) → Except ConnectorError Unit
  | [] => .ok ()
  | (_, value) :: rest => do
      validateValue depth value
      validateFields depth rest

def validateItems (depth : Nat) : List JsonValue → Except ConnectorError Unit
  | [] => .ok ()
  | item :: rest => do
      validateValue depth item
      validateItems depth rest

end

/-- `validate_source_record_payload` of a mapping. -/
def validateSourceRecordPayload (document : List (Text × JsonValue)) :
    Except ConnectorError Unit := do
  require (document.length ≤ maxRecordFields)
    (refuse "record payload exceeds the field bound")
  validateFields 1 document

/-! ## Source records -/

/-- `SourceOutcome`. -/
inductive SourceOutcome where
  | valid
  | malformed
deriving DecidableEq

/-- `SourceRecord.__post_init__`. -/
def checkSourceRecord (position : Int) (outcome : SourceOutcome)
    (payload : Option (List (Text × JsonValue)))
    (malformedReason : Option Text) : Except ConnectorError Unit := do
  require (0 ≤ position) (refuse "record position must not be negative")
  match outcome with
  | .valid => do
      match payload with
      | none => .error (refuse "valid records must carry a payload")
      | some document => validateSourceRecordPayload document
      require malformedReason.isNone
        (refuse "valid records carry no malformed reason")
  | .malformed => do
      require payload.isNone (refuse "malformed records carry no payload")
      require (malformedReason.any (!·.isEmpty))
        (refuse "malformed records require a reason")

/-- `SourceRecord`. -/
structure SourceRecord where
  position : Int
  outcome : SourceOutcome
  payload : Option (List (Text × JsonValue))
  malformedReason : Option Text
  checked : checkSourceRecord position outcome payload malformedReason = .ok ()

/-- `SourceRecord(position, outcome, payload, malformed_reason)`. -/
def SourceRecord.create (position : Int) (outcome : SourceOutcome)
    (payload : Option (List (Text × JsonValue)))
    (malformedReason : Option Text) : Except ConnectorError SourceRecord :=
  match checked : checkSourceRecord position outcome payload malformedReason with
  | .error error => .error error
  | .ok () => .ok ⟨position, outcome, payload, malformedReason, checked⟩

end ParityGrid.Application
