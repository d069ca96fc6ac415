import ParityGrid.Application.Writes.Execution

/-!
# Validation of commit commands

The writer checks every command before it opens a transaction.  For a command
that completes an attempt, its event has to say exactly what the command says.
-/

namespace ParityGrid.Adapters.Persistence

open ParityGrid.Foundation
open ParityGrid.Application

/-- `WriterInvalidRequestError`. -/
structure WriterInvalidRequest where
  message : String
deriving DecidableEq

/-- `_positive`. -/
def requirePositive (value : Int) (subject : String) :
    Except WriterInvalidRequest Unit :=
  require (1 ≤ value && value ≤ 2147483647)
    ⟨subject ++ " is outside the supported range"⟩

/-- `_bounded_text`, of a text that may be missing. -/
def requireOptionalText (value : Option Text) (subject : String) :
    Except WriterInvalidRequest Unit :=
  match value with
  | none => .ok ()
  | some value =>
      require (1 ≤ value.length && value.length ≤ 512)
        ⟨subject ++ " is outside the supported range"⟩

section Dispatch

variable [CasefoldRuntime]

/-- `_validate_work_event`. -/
def validateWorkEvent (request : EventAppendRequest)
    (workItemId : Domain.WorkItemId) (eventKind : Text) :
    Except WriterInvalidRequest PendingExecutionEvent := do
  requirePositive request.expectedCounterRowVersion "event counter row version"
  require (request.event.eventKind == eventKind)
    ⟨"durable event kind does not match its command"⟩
  require (request.event.subject == .workItem workItemId)
    ⟨"durable event work subject is inconsistent"⟩
  .ok request.event

/-- The classification and the retry time fit the target. -/
def validateCompletionTarget (completion : WorkCompletion) :
    Except WriterInvalidRequest Unit := do
  if completion.targetState = .succeeded then
    require completion.failureClassification.isNone
      ⟨"successful completion cannot have a failure class"⟩
  else
    require completion.failureClassification.isSome
      ⟨"completion failure classification has an invalid type"⟩
  if completion.targetState = .retryWait then
    require completion.retryAvailableAt.isSome
      ⟨"completion retry availability has an invalid type"⟩
  else
    require completion.retryAvailableAt.isNone
      ⟨"only retry completion has retry availability"⟩

/-- The event kind that a command has to carry, and the checks on its kind. -/
def completionEventKind :
    CommitCommand → Except WriterInvalidRequest Text
  | .attempt command => do
      require (command.completion.targetState != .succeeded)
        ⟨"successful work requires a checkpoint"⟩
      .ok (text "work_" ++ text command.completion.targetState.value)
  | .withCheckpoint command => do
      require (command.completion.targetState == .succeeded)
        ⟨"checkpointed work must succeed"⟩
      requirePositive command.checkpoint.payloadSchemaVersion
        "checkpoint schema version"
      .ok (text "checkpoint_committed")

/-- `expected_payload`. -/
def expectedPayload (command : CommitCommand) : List (Text × JsonValue) :=
  completionPayload command.base.claim command.base.nodeId.value
      command.base.completion.targetState
      command.base.completion.failureClassification
      command.base.completion.retryAvailableAt ++
    match command.checkpoint? with
    | none => []
    | some checkpoint =>
        checkpointPayload
          (checkpoint.artifactId.map fun artifact => artifact.value)
          checkpoint.payloadSchemaVersion
          checkpoint.expectedPartitionKey.value

/-- `_validate_completion_command`. -/
def validateCompletionCommand (command : CommitCommand) :
    Except WriterInvalidRequest Unit := do
  requirePositive command.base.expectedNodeRowVersion "node row version"
  requirePositive command.base.expectedRunRowVersion "run row version"
  validateCompletionTarget command.base.completion
  requireOptionalText command.base.completion.redactedDetail
    "completion detail"
  let eventKind ← completionEventKind command
  let event ← validateWorkEvent command.base.event
    command.base.claim.workItemId eventKind
  require (event.occurredAt == command.base.completion.finishedAt)
    ⟨"durable result event time is inconsistent"⟩
  require (event.payloadSchemaVersion == workResultEventPayloadSchemaVersion)
    ⟨"durable result event schema is inconsistent"⟩
  -- two mappings are compared without regard to the order of their keys
  require (event.payload.toMapping ==
      (JsonValue.object (expectedPayload command)).sortKeys)
    ⟨"durable result event payload is inconsistent"⟩

end Dispatch

end ParityGrid.Adapters.Persistence
