import ParityGrid.Foundation.JavaScript

/-!
# The durable event frame

Every message of the durable stream is untrusted.  Its envelope is validated
as a whole; the payload stays opaque, except that it may carry a projection of
the run, validated by the schema of the run response.
-/

namespace ParityGrid.Web

open ParityGrid.Foundation

/-- What the validation library reports first about a rejected value. -/
class IssueText where
  firstIssue : JsValue → JsString

/-- `RunResponse`, as `runResponseSchema` reads it. -/
structure RunResponse where
  cancellationRequestedAt : Option JsString
  createdAt : JsString
  executionEvidenceFingerprint : Option JsString
  executionEvidenceFingerprintVersion : Option Nat
  finishedAt : Option JsString
  observedAt : JsString
  pipelineId : JsString
  pipelineVersion : Nat
  runId : JsString
  runVersion : Nat
  runnerKind : JsString
  scenarioSeed : Option Int
  schemaVersion : Option Unit
  startedAt : Option JsString
  state : JsString
deriving DecidableEq

/-- The properties of `runResponseSchema`. -/
def runResponseKeys : List JsString :=
  ["cancellation_requested_at", "created_at", "execution_evidence_fingerprint",
    "execution_evidence_fingerprint_version", "finished_at", "observed_at",
    "pipeline_id", "pipeline_version", "run_id", "run_version", "runner_kind",
    "scenario_seed", "schema_version", "started_at", "state"].map js

/-- `runResponseSchema`. -/
def runResponseSchema : Schema RunResponse := fun value => do
  let fields ← Schema.strictObject runResponseKeys value
  let timestamp := Schema.string 1 64
  let identifier := Schema.string 1 256
  let shortText := Schema.string 1 256
  return {
    cancellationRequestedAt :=
      ← requiredField fields "cancellation_requested_at" (Schema.nullable timestamp)
    createdAt := ← requiredField fields "created_at" timestamp
    executionEvidenceFingerprint :=
      ← nullishField fields "execution_evidence_fingerprint" (Schema.string 1 128)
    executionEvidenceFingerprintVersion :=
      ← nullishField fields "execution_evidence_fingerprint_version"
        (Schema.natural 0 none)
    finishedAt := ← requiredField fields "finished_at" (Schema.nullable timestamp)
    observedAt := ← requiredField fields "observed_at" timestamp
    pipelineId := ← requiredField fields "pipeline_id" identifier
    pipelineVersion :=
      ← requiredField fields "pipeline_version" (Schema.natural 1 none)
    runId := ← requiredField fields "run_id" identifier
    runVersion := ← requiredField fields "run_version" (Schema.natural 0 none)
    runnerKind := ← requiredField fields "runner_kind" shortText
    scenarioSeed := ← requiredField fields "scenario_seed" (Schema.nullable Schema.int)
    schemaVersion := ← optionalField fields "schema_version" (Schema.literalNumber 1)
    startedAt := ← requiredField fields "started_at" (Schema.nullable timestamp)
    state := ← requiredField fields "state" shortText }

structure DurableEventFrame where
  sequence : Nat
  runId : JsString
  eventKind : JsString
  subjectKind : JsString
  subjectId : JsString
  occurredAt : JsString
  correlationId : Option JsString
  payloadSchemaVersion : Nat
  payload : List (JsString × JsValue)

/-- The properties of `durableEventFrameSchema`. -/
def durableEventFrameKeys : List JsString :=
  ["schema_version", "channel", "sequence", "run_id", "event_kind",
    "subject_kind", "subject_id", "occurred_at", "correlation_id",
    "payload_schema_version", "payload"].map js

/-- `durableEventFrameSchema`. -/
def durableEventFrameSchema : Schema DurableEventFrame := fun value => do
  let fields ← Schema.strictObject durableEventFrameKeys value
  requiredField fields "schema_version" (Schema.literalNumber 1)
  requiredField fields "channel" (Schema.literalString (js "durable-events"))
  return {
    sequence :=
      ← requiredField fields "sequence" (Schema.natural 1 (some 2147483647))
    runId := ← requiredField fields "run_id" (Schema.string 1 256)
    eventKind := ← requiredField fields "event_kind" (Schema.string 1 128)
    subjectKind := ← requiredField fields "subject_kind" (Schema.string 1 128)
    subjectId := ← requiredField fields "subject_id" (Schema.string 1 256)
    occurredAt := ← requiredField fields "occurred_at" (Schema.string 1 64)
    correlationId := ← nullishField fields "correlation_id" (Schema.string 0 128)
    payloadSchemaVersion :=
      ← requiredField fields "payload_schema_version" (Schema.natural 1 (some 2))
    payload := ← requiredField fields "payload" Schema.record }

/-- `parseDurableFrame`. -/
def parseDurableFrame [IssueText] (input : JsValue) :
    Except JsString DurableEventFrame :=
  match durableEventFrameSchema input with
  | some frame => .ok frame
  | none => .error (IssueText.firstIssue input)

/-- Why the durable view has to be recovered. -/
inductive RecoveryReason where
  | sequenceGap (expected received : Nat)
  | malformedFrame (detail : JsString)
  | incompatibleFrame (detail : JsString)
  | streamAhead (code : JsString)
  | resumeRejected (code : JsString)
  | runNotFound
  | connectionClosed
deriving DecidableEq

/-- `describeReason`. -/
def describeReason : RecoveryReason → JsString
  | .sequenceGap expected received =>
      js "durable sequence gap: expected " ++ jsDecimal expected ++
        js ", received " ++ jsDecimal received
  | .streamAhead code => code
  | .malformedFrame detail => detail
  | .incompatibleFrame detail => detail
  | .resumeRejected _ => js "resume-rejected"
  | .runNotFound => js "run-not-found"
  | .connectionClosed => js "connection-closed"

end ParityGrid.Web
