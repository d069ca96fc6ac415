import ParityGrid.Foundation.Transition
import ParityGrid.Web.Live.DurableStream

/-!
# The live view of one run

The channel hands the frames of its stream to the reducer and applies every
authoritative snapshot that reaches the query cache.  Whatever suspends (the
first fetch, a connection, a recovery, a timer) is settled later by a step of
its own, in any order.
-/

namespace ParityGrid.Web

open ParityGrid.Foundation

structure ChannelSnapshot where
  durable : DurableRunState
  stream : DurableStreamStatus

structure LiveRunChannel where
  runId : JsString
  durable : DurableRunState
  stream : DurableRunStream
  /-- What the listeners were last shown. -/
  snapshot : ChannelSnapshot
  disposed : Bool
  /-- The calls of `start` that await the run. -/
  starts : Nat
  /-- Every frame that the reducer accepted, oldest first. -/
  applied : List DurableEventFrame

/-- The channel of `new LiveRunChannel({runId, ..})`. -/
def newLiveRunChannel (runId : JsString) : LiveRunChannel where
  runId := runId
  durable := initialDurableRunState runId
  stream := newDurableRunStream runId
  snapshot := ⟨initialDurableRunState runId, (newDurableRunStream runId).status⟩
  disposed := false
  starts := 0
  applied := []

namespace LiveRunChannel

variable (channel : LiveRunChannel)

/-- `publish`. -/
def publish : LiveRunChannel :=
  { channel with snapshot := ⟨channel.durable, channel.stream.status⟩ }

/-- The stream, once a method of it has run. -/
def setStream (stream : DurableRunStream) : LiveRunChannel :=
  { channel with stream := stream }

/-- `DurableRunStream.setStatus`: the owner mirrors every transition. -/
def setStatus (patch : DurableStreamStatus → DurableStreamStatus) :
    LiveRunChannel :=
  (channel.setStream
    { channel.stream with status := patch channel.stream.status }).publish

/-- A new durable view, shown at once. -/
def display (durable : DurableRunState) : LiveRunChannel :=
  { channel with durable := durable }.publish

/-- `handleExhausted`. -/
def handleExhausted (reason : RecoveryReason) : LiveRunChannel :=
  if channel.disposed then channel
  else channel.display (channel.durable.markStale (describeReason reason))

/-- `connect`, up to the await of the transport. -/
def connect : LiveRunChannel :=
  if channel.stream.disposed ∨ channel.stream.connecting then channel
  else
    (channel.setStream
      { channel.stream with
        connecting := true
        abortController := some channel.stream.controllers
        controllers := channel.stream.controllers + 1 }).setStatus fun status =>
      { status with
        kind := .connecting
        resumeFrom := channel.stream.acceptedSequence
        attemptsUsed := channel.stream.attemptsUsed
        reason := none }

/-- The end of a stream whose attempts are used up. -/
def exhaust (reason : RecoveryReason) : LiveRunChannel :=
  (channel.setStatus fun status =>
    { status with
      kind := .disconnected
      attemptsUsed := channel.stream.attemptsUsed
      reason := some reason }).handleExhausted reason

/-- The status of a stream that waits to resume. -/
def setRecovering (reason : RecoveryReason) : LiveRunChannel :=
  channel.setStatus fun status =>
    { status with
      kind := .recovering
      attemptsUsed := channel.stream.attemptsUsed
      reason := some reason }

/-- `scheduleReconnect`. -/
def scheduleReconnect (reason : RecoveryReason) : LiveRunChannel :=
  if channel.stream.disposed then channel
  else
    let counted := channel.setStream
      { channel.stream with attemptsUsed := channel.stream.attemptsUsed + 1 }
    if defaultMaxAttempts ≤ counted.stream.attemptsUsed then
      counted.exhaust reason
    else
      let waiting := counted.setRecovering reason
      waiting.setStream { waiting.stream with timer := true }

/-- `handleRecovery`, up to the await of the refetch. -/
def handleRecovery (reason : RecoveryReason) : LiveRunChannel :=
  if channel.disposed then channel
  else channel.display (channel.durable.markRecovering reason)

/-- `enterRecovery`, up to the await of the handler. -/
def enterRecovery (reason : RecoveryReason) (resumeFromZero : Bool) :
    LiveRunChannel :=
  if channel.stream.disposed then channel
  else
    let counted := channel.setStream
      { channel.stream with
        abortController := none
        connecting := false
        attemptsUsed := channel.stream.attemptsUsed + 1 }
    if defaultMaxAttempts ≤ counted.stream.attemptsUsed then
      counted.exhaust reason
    else
      let waiting := (counted.setRecovering reason).handleRecovery reason
      waiting.setStream
        { waiting.stream with
          recoveries := waiting.stream.recoveries ++
            [⟨reason, channel.stream.acceptedSequence, resumeFromZero⟩] }

/-- `handleFrame`. -/
def handleFrame (frame : DurableEventFrame) :
    LiveRunChannel × Option RecoveryReason :=
  if channel.disposed then (channel, some .connectionClosed)
  else match durableFrameCompatibility channel.durable frame with
  | some incompatibility => (channel, some incompatibility)
  | none =>
      let applied :=
        if acceptsFrame channel.durable frame then channel.applied ++ [frame]
        else channel.applied
      ({ channel with applied := applied }.display
        (applyDurableEvent channel.durable frame), none)

/-- `handleMessage`. -/
def handleMessage [IssueText] (message : SseMessage) : LiveRunChannel :=
  match channel.stream.checkMessage message with
  | .ignored => channel
  | .recovers reason => channel.enterRecovery reason false
  | .frame frame =>
      match channel.handleFrame frame with
      | (handled, some rejected) => handled.enterRecovery rejected false
      | (handled, none) =>
          (handled.setStream
            { handled.stream with
              acceptedSequence := frame.sequence }).setStatus fun status =>
            { status with kind := .live, acceptedSequence := frame.sequence }

/-- `handleConnectionEnd`. -/
def handleConnectionEnd (result : SseConnectionResult) : LiveRunChannel :=
  if channel.stream.disposed then channel
  else match result with
  | .httpError 409 code =>
      channel.enterRecovery
        (.streamAhead (code.getD (js "stream_sequence_ahead"))) true
  | .httpError 404 _ =>
      (channel.setStatus fun status =>
        { status with
          kind := .disconnected
          reason := some .runNotFound }).handleExhausted .runNotFound
  | .httpError 400 code =>
      channel.enterRecovery
        (.resumeRejected (code.getD (js "invalid_resume_position"))) true
  | _ => channel.scheduleReconnect .connectionClosed

/-- `DurableRunStream.start`. -/
def startStream : LiveRunChannel :=
  if channel.stream.disposed ∨ channel.stream.connecting then channel
  else
    (channel.setStream
      { channel.stream with attemptsUsed := 0, timer := false }).connect

/-- `dispose`. -/
def dispose : LiveRunChannel :=
  if channel.disposed then channel
  else
    ({ channel with
      disposed := true
      stream :=
        { channel.stream with
          disposed := true
          abortController := none
          timer := false
          connecting := false
          status :=
            { channel.stream.status with
              kind := .disconnected, reason := none } } }).publish

/-! ## Steps -/

/-- A notification of the query cache. -/
structure CacheEvent where
  updated : Bool
  queryKey : List JsString
  /-- The data of a success action. -/
  data : Option JsValue

/-- `queryKeys.runDetail`. -/
def runDetail (runId : JsString) : List JsString :=
  [js "runs", runId, js "detail"]

/-- `handleCacheEvent`. -/
def handleCacheEvent (event : CacheEvent) : LiveRunChannel :=
  if channel.disposed ∨ event.updated = false then channel
  else if event.queryKey ≠ runDetail channel.runId then channel
  else match event.data.bind runResponseSchema with
  | none => channel
  -- a view that stays the same object is shown already
  | some run => channel.display (applyRunSnapshot channel.durable run)

/-- What happens to a channel, one turn of the event loop at a time. -/
inductive Turn where
  | start
  /-- The first fetch gave a run, or failed with a description. -/
  | started (result : Except JsString RunResponse)
  | cacheEvent (event : CacheEvent)
  | telemetry
  | message (controller : Nat) (message : SseMessage)
  | connectionEnds (controller : Nat) (result : SseConnectionResult)
  /-- A recovery settles; `handled` is false when its handler threw. -/
  | recovered (index : Nat) (handled : Bool)
  | timer
  | dispose

/-- `start`, up to the await of the run. -/
def start : LiveRunChannel :=
  if channel.disposed then channel
  else
    { channel.display channel.durable.markLoading with
      starts := channel.starts + 1 }

/-- `start`, once the run is fetched or the fetch has failed. -/
def started (result : Except JsString RunResponse) : LiveRunChannel :=
  if channel.starts = 0 then channel
  else
    let settled := { channel with starts := channel.starts - 1 }
    if channel.disposed then settled
    else
      let durable :=
        match result with
        | .ok run => applyRunSnapshot channel.durable run
        | .error detail => channel.durable.markError detail
      (settled.display durable).startStream

/-- The stream resumes from the sequence that a recovery gave. -/
def resumeAt (target : Nat) : LiveRunChannel :=
  ((channel.setStream
    { channel.stream with acceptedSequence := target }).setStatus fun status =>
      { status with acceptedSequence := target, resumeFrom := target }).connect

/-- `enterRecovery`, once its handler has settled. -/
def recovered (index : Nat) (handled : Bool) : LiveRunChannel :=
  match channel.stream.recoveries[index]? with
  | none => channel
  | some recovery =>
      let settled := channel.setStream
        { channel.stream with
          recoveries := channel.stream.recoveries.eraseIdx index }
      if channel.stream.disposed then settled
      else if handled then
        settled.resumeAt
          (if recovery.resumeFromZero then 0 else recovery.resumeSequence)
      else settled.scheduleReconnect recovery.reason

/-- One turn. -/
def step [IssueText] : Turn → LiveRunChannel
  | .start => channel.start
  | .started result => channel.started result
  | .cacheEvent event => channel.handleCacheEvent event
  | .telemetry => if channel.disposed then channel else channel.publish
  | .message controller message =>
      if channel.stream.abortController = some controller then
        channel.handleMessage message
      else channel
  | .connectionEnds controller result =>
      if channel.stream.abortController = some controller then
        (channel.setStream
          { channel.stream with
            connecting := false
            abortController := none }).handleConnectionEnd result
      else channel
  | .recovered index handled => channel.recovered index handled
  | .timer =>
      if channel.stream.timer then
        (channel.setStream { channel.stream with timer := false }).connect
      else channel
  | .dispose => channel.dispose

end LiveRunChannel

/-- All runs of the channel of one run. -/
def liveRunSystem [IssueText] (runId : JsString) :
    TransitionSystem LiveRunChannel LiveRunChannel.Turn where
  Initial channel := channel = newLiveRunChannel runId
  Step channel turn next := next = channel.step turn

end ParityGrid.Web
