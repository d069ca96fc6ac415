import ParityGrid.Foundation.Sorting
import ParityGrid.Foundation.Validation

/-!
# Scripted failures

A failure script binds faults to the sequence numbers of requests, each number
at most once and in ascending order, so that `failureFor` may stop early.
-/

namespace ParityGrid.Demo

open Foundation

/-! ## Entries -/

/-- `ScriptedFailureKind`. -/
inductive ScriptedFailureKind where
  | rateLimit
  | transientError
  | timeout
  | malformedResponse
  | duplicateRecords
  | connectionLoss
  | hang
deriving DecidableEq

/-- The value of the enumeration member. -/
def ScriptedFailureKind.value : ScriptedFailureKind → Text
  | .rateLimit => text "rate_limit"
  | .transientError => text "transient_error"
  | .timeout => text "timeout"
  | .malformedResponse => text "malformed_response"
  | .duplicateRecords => text "duplicate_records"
  | .connectionLoss => text "connection_loss"
  | .hang => text "hang"

/-- The members, in the order of their definition. -/
def ScriptedFailureKind.members : List ScriptedFailureKind :=
  [.rateLimit, .transientError, .timeout, .malformedResponse,
    .duplicateRecords, .connectionLoss, .hang]

/-- `ScriptedFailureKind(value)`, or its `ValueError`. -/
def ScriptedFailureKind.ofValue (value : Text) : Option ScriptedFailureKind :=
  ScriptedFailureKind.members.find? fun kind => kind.value == value

theorem ScriptedFailureKind.ofValue_value (kind : ScriptedFailureKind) :
    ofValue kind.value = some kind := by
  cases kind <;> decide

/-- `_TRANSPORT_KINDS`. -/
def ScriptedFailureKind.isTransport : ScriptedFailureKind → Bool
  | .malformedResponse => false
  | .duplicateRecords => false
  | _ => true

def failureScriptError (message : String) : PythonError :=
  .raised (text "FailureScriptError") true (text message)

/-- The fields of `ScriptedFailure`. -/
structure ScriptedFailureFields where
  sequence : Int
  kind : ScriptedFailureKind
  retryAfterSeconds : Option Int
  delayMicroseconds : Option Int
  partialBytes : Option Int
deriving DecidableEq

/-- `_validated_integer`, or the check that the field does not apply. -/
def validateOption (applies : Bool) (field owner : String)
    (minimum maximum : Int) : Option Int → Except PythonError Unit
  | none =>
      require (!applies) (failureScriptError (field ++ " must be an integer"))
  | some value => do
      require applies
        (failureScriptError (field ++ " only applies to " ++ owner))
      require (minimum ≤ value && value ≤ maximum)
        (failureScriptError (field ++ " must be between " ++
          toString minimum ++ " and " ++ toString maximum))

/-- `ScriptedFailure.__post_init__`. -/
def ScriptedFailureFields.validate (fields : ScriptedFailureFields) :
    Except PythonError Unit := do
  require (1 ≤ fields.sequence && fields.sequence ≤ 2147483647)
    (failureScriptError "failure sequence must be between 1 and 2^31-1")
  validateOption (fields.kind == .rateLimit) "retry_after_seconds"
    "rate_limit" 1 60 fields.retryAfterSeconds
  validateOption (fields.kind == .timeout || fields.kind == .hang)
    "delay_microseconds" "timeout or hang" 0 60000000 fields.delayMicroseconds
  validateOption (fields.kind == .connectionLoss) "partial_bytes"
    "connection_loss" 1 65536 fields.partialBytes

/-- One fault bound to an exact request sequence number. -/
structure ScriptedFailure extends ScriptedFailureFields where
  valid : toScriptedFailureFields.validate = .ok ()
deriving DecidableEq

theorem ScriptedFailure.sequence_bounds (failure : ScriptedFailure) :
    1 ≤ failure.sequence ∧ failure.sequence ≤ 2147483647 := by
  have valid := failure.valid
  simp only [ScriptedFailureFields.validate, bind_eq_ok, require_eq_ok,
    Bool.and_eq_true, decide_eq_true_eq] at valid
  obtain ⟨_, bounds, _⟩ := valid
  exact bounds

/-- One observed application of a scripted failure. -/
structure AppliedFailure where
  sequence : Int
  kind : ScriptedFailureKind
deriving DecidableEq

/-! ## Scripts -/

/-- `FailureScript`. -/
structure FailureScript where
  failures : List ScriptedFailure
  ordered : failures.Pairwise fun earlier later =>
    earlier.sequence < later.sequence
  bounded : failures.length ≤ 1000

/-- `FailureScript.empty`. -/
def FailureScript.empty : FailureScript where
  failures := []
  ordered := .nil
  bounded := by decide

/-- The loop of `failure_for`, over ascending sequence numbers. -/
def findFailure (sequence : Int) : List ScriptedFailure → Option ScriptedFailure
  | [] => none
  | failure :: rest =>
      if failure.sequence = sequence then some failure
      else if sequence < failure.sequence then none
      else findFailure sequence rest

/-- `FailureScript.failure_for`. -/
def FailureScript.failureFor (script : FailureScript) (sequence : Int) :
    Option ScriptedFailure :=
  findFailure sequence script.failures

/-- `require_transport_script`, for the warehouse. -/
def requireTransportScript (script : FailureScript) (subject : Text) :
    Except PythonError Unit :=
  script.failures.forM fun failure =>
    require failure.kind.isTransport
      (.raised (text "FailureScriptError") true
        (subject ++ text " scripts may not use " ++ failure.kind.value ++
          text " failures"))

end ParityGrid.Demo
