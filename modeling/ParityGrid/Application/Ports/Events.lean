import ParityGrid.Application.Ports.Consistency
import ParityGrid.Application.Ports.Execution

/-!
# Durable execution events

Every command of the writer appends one event.  A request names the sequence
number and the counter revision that the event is to follow, so that an append
is a compare-and-set of the event frontier.
-/

namespace ParityGrid.Application

open ParityGrid.Foundation
open ParityGrid.Domain (RunId WorkItemId)

/-- What an event is about: `subject_kind` together with `subject_id`. -/
inductive EventSubject where
  | run (runId : RunId)
  | workItem (workItemId : WorkItemId)
deriving DecidableEq

section Events

variable [CasefoldRuntime]

structure PendingExecutionEvent where
  eventKind : Text
  occurredAt : Instant
  subject : EventSubject
  correlationId : Option Text
  payloadSchemaVersion : Int
  payload : RedactedDocument
deriving DecidableEq

structure EventAppendRequest where
  expectedNextSequence : Int
  expectedCounterRowVersion : Int
  event : PendingExecutionEvent
deriving DecidableEq

structure ExecutionEventRecord where
  runId : RunId
  sequence : Int
  eventKind : Text
  occurredAt : Instant
  subject : EventSubject
  correlationId : Option Text
  payloadSchemaVersion : Int
  payload : RedactedDocument
deriving DecidableEq

structure ExecutionEventBatch where
  items : List ExecutionEventRecord
  nextSequence : Int
  counterRowVersion : Int
deriving DecidableEq

/-- The record of a pending event once it has its number. -/
def PendingExecutionEvent.record (event : PendingExecutionEvent)
    (runId : RunId) (sequence : Int) : ExecutionEventRecord where
  runId := runId
  sequence := sequence
  eventKind := event.eventKind
  occurredAt := event.occurredAt
  subject := event.subject
  correlationId := event.correlationId
  payloadSchemaVersion := event.payloadSchemaVersion
  payload := event.payload

/-- The batch that a request asks for. -/
def EventAppendRequest.batch (request : EventAppendRequest) (runId : RunId) :
    ExecutionEventBatch where
  items := [request.event.record runId request.expectedNextSequence]
  nextSequence := request.expectedNextSequence + 1
  counterRowVersion := request.expectedCounterRowVersion + 1

end Events

end ParityGrid.Application
