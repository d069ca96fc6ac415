import ParityGrid.Web.Live.LiveState

/-!
# The durable stream client

One connection at a time delivers the events of a run from a resume position.
Each connection has a controller of its own, so that what a superseded one
still delivers can be told apart.  A recovery awaits an authoritative refetch
before the stream resumes.
-/

namespace ParityGrid.Web

open ParityGrid.Foundation

/-- `DEFAULT_MAX_ATTEMPTS`. -/
def defaultMaxAttempts : Nat := 5

inductive StreamKind where
  | idle
  | connecting
  | live
  | recovering
  | disconnected
deriving DecidableEq

structure DurableStreamStatus where
  kind : StreamKind
  acceptedSequence : Nat
  resumeFrom : Nat
  attemptsUsed : Nat
  reason : Option RecoveryReason
deriving DecidableEq

/-- One message; `data` is what `JSON.parse` makes of it, if it does not throw. -/
structure SseMessage where
  id : Option JsString
  event : Option JsString
  data : Option JsValue

inductive SseConnectionResult where
  | completed
  | httpError (status : Nat) (problemCode : Option JsString)

/-- A recovery that awaits its handler. -/
structure PendingRecovery where
  reason : RecoveryReason
  resumeSequence : Nat
  resumeFromZero : Bool

structure DurableRunStream where
  runId : JsString
  acceptedSequence : Nat
  attemptsUsed : Nat
  disposed : Bool
  connecting : Bool
  /-- The controller of the connection whose messages count. -/
  abortController : Option Nat
  /-- Whether a reconnect is scheduled. -/
  timer : Bool
  status : DurableStreamStatus
  /-- How many controllers were made. -/
  controllers : Nat
  recoveries : List PendingRecovery

/-- The stream of `new DurableRunStream({runId, ..})`. -/
def newDurableRunStream (runId : JsString) : DurableRunStream where
  runId := runId
  acceptedSequence := 0
  attemptsUsed := 0
  disposed := false
  connecting := false
  abortController := none
  timer := false
  status := ⟨.idle, 0, 0, 0, none⟩
  controllers := 0
  recoveries := []

/-- What `handleMessage` makes of a message before any handler is called. -/
inductive MessageVerdict where
  | ignored
  | recovers (reason : RecoveryReason)
  | frame (frame : DurableEventFrame)

/-- `handleMessage`, of a frame whose envelope is valid. -/
def DurableRunStream.checkFrame (stream : DurableRunStream)
    (message : SseMessage) (frame : DurableEventFrame) : MessageVerdict :=
  if frame.runId ≠ stream.runId then
    .recovers (.incompatibleFrame (js "foreign run id " ++ frame.runId))
  else if frame.subjectKind = js "run" ∧ frame.subjectId ≠ frame.runId then
    .recovers (.incompatibleFrame
      (js "run subject id disagrees with envelope run id"))
  else if message.event.any fun event => event != frame.eventKind then
    .recovers (.incompatibleFrame
      (js "SSE event name disagrees with envelope event_kind"))
  else if message.id.any fun id => id != jsDecimal frame.sequence then
    .recovers (.incompatibleFrame
      (js "SSE id disagrees with envelope sequence"))
  else if frame.sequence ≤ stream.acceptedSequence then .ignored
  else if stream.acceptedSequence + 1 < frame.sequence then
    .recovers (.sequenceGap (stream.acceptedSequence + 1) frame.sequence)
  else .frame frame

/-- `handleMessage`, up to the call of `onFrame`. -/
def DurableRunStream.checkMessage [IssueText] (stream : DurableRunStream)
    (message : SseMessage) : MessageVerdict :=
  if stream.disposed ∨ stream.status.kind = .recovering then .ignored
  else match message.data with
  | none => .recovers (.malformedFrame (js "data is not valid JSON"))
  | some input =>
      match parseDurableFrame input with
      | .error reason =>
          .recovers (.malformedFrame
            (js "envelope rejected (" ++ reason ++ js ")"))
      | .ok frame => stream.checkFrame message frame

/-- A frame that is handed on is the next one of the stream. -/
theorem DurableRunStream.checkMessage_frame [IssueText]
    {stream : DurableRunStream} {message : SseMessage}
    {frame : DurableEventFrame}
    (verdict : stream.checkMessage message = .frame frame) :
    frame.sequence = stream.acceptedSequence + 1 := by
  simp only [checkMessage] at verdict
  split at verdict
  · cases verdict
  split at verdict
  · cases verdict
  split at verdict
  · cases verdict
  simp only [checkFrame] at verdict
  split at verdict
  · cases verdict
  split at verdict
  · cases verdict
  split at verdict
  · cases verdict
  split at verdict
  · cases verdict
  split at verdict
  · cases verdict
  next fresh =>
    split at verdict
    · cases verdict
    next contiguous =>
      cases verdict
      omega

end ParityGrid.Web
