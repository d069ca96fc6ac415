import ParityGrid.Web.Live.Protocol

/-!
# The durable reducer

The reducer holds the last coherent view of one run.  Snapshots replace the
run only when their version does not regress it; events advance the accepted
sequence by one at a time, and what does not fit leaves it where it was.
-/

namespace ParityGrid.Web

open ParityGrid.Foundation

/-- `MAX_EVENT_LOG`. -/
def maxEventLog : Nat := 100

/-- `MAX_NODE_EVENT_PROJECTION`: one event per node of a pipeline. -/
def maxNodeEventProjection : Nat := 256

inductive DurableStatus where
  | idle
  | loading
  | ready
  | stale
  | recovering
  | error
deriving DecidableEq

structure DurableRunState where
  runId : JsString
  acceptedSequence : Nat
  run : Option RunResponse
  status : DurableStatus
  /-- Newest first. -/
  events : List DurableEventFrame
  nodeEvents : List DurableEventFrame
  lastError : Option JsString

/-- `initialDurableRunState`. -/
def initialDurableRunState (runId : JsString) : DurableRunState where
  runId := runId
  acceptedSequence := 0
  run := none
  status := .idle
  events := []
  nodeEvents := []
  lastError := none

namespace DurableRunState

variable (state : DurableRunState)

/-- `reject`. -/
def reject (detail : JsString) : DurableRunState :=
  { state with lastError := some detail }

/-- `markLoading`. -/
def markLoading : DurableRunState :=
  if state.status = .ready then state else { state with status := .loading }

/-- `markError`. -/
def markError (detail : JsString) : DurableRunState :=
  { state with status := .error, lastError := some detail }

/-- `markRecovering`. -/
def markRecovering (reason : RecoveryReason) : DurableRunState :=
  { state with
    status := .recovering, lastError := some (describeReason reason) }

/-- `markStale`. -/
def markStale (detail : JsString) : DurableRunState :=
  { state with status := .stale, lastError := some detail }

end DurableRunState

/-- `runIdentity`, of a typed response: its run, unless it names none. -/
def runIdentity (snapshot : RunResponse) : Option JsString :=
  if snapshot.runId = [] then none else some snapshot.runId

/-- `hasCompatibleRunDefinition`. -/
def hasCompatibleRunDefinition (current candidate : RunResponse) : Bool :=
  current.pipelineId == candidate.pipelineId &&
    current.pipelineVersion == candidate.pipelineVersion &&
    current.runnerKind == candidate.runnerKind &&
    current.scenarioSeed == candidate.scenarioSeed

/-- `applyRunSnapshot`. -/
def applyRunSnapshot (state : DurableRunState) (snapshot : RunResponse) :
    DurableRunState :=
  if runIdentity snapshot ≠ some state.runId then
    state.reject (js "foreign or malformed run snapshot")
  else if state.run.any fun run => snapshot.runVersion < run.runVersion then
    state
  else if state.run.any fun run => !hasCompatibleRunDefinition run snapshot then
    state.reject (js "incompatible pipeline or runner identity")
  else
    { state with run := some snapshot, status := .ready, lastError := none }

/-- `embeddedRunSnapshot`. -/
def embeddedRunSnapshot (frame : DurableEventFrame) : Option RunResponse :=
  ((member frame.payload "run").bind runResponseSchema).filter
    fun run => run.runId == frame.runId

/-- `durableFrameCompatibility`. -/
def durableFrameCompatibility (state : DurableRunState)
    (frame : DurableEventFrame) : Option RecoveryReason :=
  if frame.runId ≠ state.runId then
    some (.incompatibleFrame (js "foreign run id " ++ frame.runId))
  else match member frame.payload "run" with
  | none => none
  | some candidate =>
      match runResponseSchema candidate with
      | none =>
          if frame.eventKind = js "run.updated" then
            some (.incompatibleFrame (js "run.updated payload is malformed"))
          else none
      | some embedded =>
          if embedded.runId ≠ frame.runId then
            some (.incompatibleFrame
              (js "embedded run id disagrees with envelope run id"))
          else if state.run.any fun run =>
              !hasCompatibleRunDefinition run embedded then
            some (.incompatibleFrame (js
              "embedded run has an incompatible pipeline or runner identity"))
          else none

/-- The node that a frame names. -/
def frameNode (frame : DurableEventFrame) : Option JsString :=
  match member frame.payload "node_id" with
  | some (.string nodeId) => if nodeId = [] then none else some nodeId
  | _ => none

/-- A node that the projection has no room for. -/
def exceedsNodeLimit (state : DurableRunState) (frame : DurableEventFrame) :
    Bool :=
  (frameNode frame).any fun nodeId =>
    (state.nodeEvents.all fun event => frameNode event != some nodeId) &&
      maxNodeEventProjection ≤ state.nodeEvents.length

/-- The projection once a frame is in it. -/
def projectNode (nodeEvents : List DurableEventFrame)
    (frame : DurableEventFrame) : List DurableEventFrame :=
  match frameNode frame with
  | none => nodeEvents
  | some nodeId =>
      frame :: nodeEvents.filter fun event => frameNode event != some nodeId

/-- `applyDurableEvent`. -/
def applyDurableEvent (state : DurableRunState) (frame : DurableEventFrame) :
    DurableRunState :=
  match durableFrameCompatibility state frame with
  | some incompatibility => state.markRecovering incompatibility
  | none =>
      let expected := state.acceptedSequence + 1
      if frame.sequence ≤ state.acceptedSequence then state
      else if expected < frame.sequence then
        state.markRecovering (.sequenceGap expected frame.sequence)
      else if exceedsNodeLimit state frame then
        state.markRecovering (.incompatibleFrame
          (js "durable node projection exceeds the pipeline node limit"))
      else
        let next :=
          { state with
            acceptedSequence := frame.sequence
            events := (frame :: state.events).take maxEventLog
            nodeEvents := projectNode state.nodeEvents frame }
        match embeddedRunSnapshot frame with
        | none => next
        | some embedded => applyRunSnapshot next embedded

/-! ## What the reducer keeps -/

/-- The run of `after` is at least as new as that of `before`. -/
def VersionKept (before after : DurableRunState) : Prop :=
  ∀ run, before.run = some run →
    ∃ later, after.run = some later ∧ run.runVersion ≤ later.runVersion

theorem VersionKept.of_eq {before after : DurableRunState}
    (same : after.run = before.run) : VersionKept before after :=
  fun run shown => ⟨run, same.trans shown, Nat.le_refl _⟩

theorem VersionKept.refl (state : DurableRunState) : VersionKept state state :=
  .of_eq rfl

theorem VersionKept.trans {first middle last : DurableRunState}
    (former : VersionKept first middle) (latter : VersionKept middle last) :
    VersionKept first last := by
  intro run shown
  rcases former run shown with ⟨later, held, older⟩
  rcases latter later held with ⟨latest, ends, newer⟩
  exact ⟨latest, ends, older.trans newer⟩

/-- A snapshot moves neither the sequence nor the events. -/
theorem applyRunSnapshot_frame (state : DurableRunState)
    (snapshot : RunResponse) :
    (applyRunSnapshot state snapshot).acceptedSequence =
        state.acceptedSequence ∧
      (applyRunSnapshot state snapshot).events = state.events ∧
      (applyRunSnapshot state snapshot).nodeEvents = state.nodeEvents ∧
      (applyRunSnapshot state snapshot).runId = state.runId := by
  simp only [applyRunSnapshot, DurableRunState.reject]
  split
  · exact ⟨rfl, rfl, rfl, rfl⟩
  split
  · exact ⟨rfl, rfl, rfl, rfl⟩
  split <;> exact ⟨rfl, rfl, rfl, rfl⟩

theorem applyRunSnapshot_version (state : DurableRunState)
    (snapshot : RunResponse) :
    VersionKept state (applyRunSnapshot state snapshot) := by
  simp only [applyRunSnapshot, DurableRunState.reject]
  split
  · exact .of_eq rfl
  split
  · exact .of_eq rfl
  next current =>
    split
    · exact .of_eq rfl
    · intro run shown
      refine ⟨snapshot, rfl, ?_⟩
      simpa [shown] using current

theorem markLoading_frame (state : DurableRunState) :
    state.markLoading.acceptedSequence = state.acceptedSequence ∧
      state.markLoading.events = state.events ∧
      state.markLoading.run = state.run := by
  simp only [DurableRunState.markLoading]
  split <;> exact ⟨rfl, rfl, rfl⟩

/-- The frames that advance the reducer. -/
def acceptsFrame (state : DurableRunState) (frame : DurableEventFrame) : Bool :=
  (durableFrameCompatibility state frame).isNone &&
    frame.sequence == state.acceptedSequence + 1 &&
    !exceedsNodeLimit state frame

theorem applyDurableEvent_accepted {state : DurableRunState}
    {frame : DurableEventFrame} (accepts : acceptsFrame state frame = true) :
    (applyDurableEvent state frame).acceptedSequence = frame.sequence ∧
      (applyDurableEvent state frame).events =
        (frame :: state.events).take maxEventLog ∧
      (applyDurableEvent state frame).nodeEvents =
        projectNode state.nodeEvents frame ∧
      (applyDurableEvent state frame).runId = state.runId ∧
      VersionKept state (applyDurableEvent state frame) := by
  simp only [acceptsFrame, Bool.and_eq_true, Option.isNone_iff_eq_none,
    beq_iff_eq, Bool.not_eq_true'] at accepts
  obtain ⟨⟨compatible, next⟩, room⟩ := accepts
  have fresh : ¬ frame.sequence ≤ state.acceptedSequence := by omega
  have contiguous : ¬ state.acceptedSequence + 1 < frame.sequence := by omega
  simp only [applyDurableEvent, compatible, if_neg fresh, if_neg contiguous,
    room, Bool.false_eq_true, if_false]
  cases embeddedRunSnapshot frame with
  | none => exact ⟨rfl, rfl, rfl, rfl, .of_eq rfl⟩
  | some embedded =>
      rcases applyRunSnapshot_frame _ embedded with ⟨sequence, events, nodes, run⟩
      exact ⟨sequence, events, nodes, run, fun held shown =>
        applyRunSnapshot_version _ embedded held shown⟩

theorem applyDurableEvent_not_accepted {state : DurableRunState}
    {frame : DurableEventFrame} (rejects : acceptsFrame state frame = false) :
    (applyDurableEvent state frame).acceptedSequence =
        state.acceptedSequence ∧
      (applyDurableEvent state frame).events = state.events ∧
      (applyDurableEvent state frame).run = state.run := by
  simp only [applyDurableEvent]
  cases compatible : durableFrameCompatibility state frame with
  | some reason => exact ⟨rfl, rfl, rfl⟩
  | none =>
      dsimp only
      split
      · exact ⟨rfl, rfl, rfl⟩
      next fresh =>
        split
        · exact ⟨rfl, rfl, rfl⟩
        next contiguous =>
          split
          · exact ⟨rfl, rfl, rfl⟩
          next room =>
            have next : frame.sequence = state.acceptedSequence + 1 := by omega
            simp [acceptsFrame, compatible, next, room] at rejects

theorem applyDurableEvent_version (state : DurableRunState)
    (frame : DurableEventFrame) :
    VersionKept state (applyDurableEvent state frame) := by
  cases accepts : acceptsFrame state frame with
  | true => exact (applyDurableEvent_accepted accepts).2.2.2.2
  | false => exact .of_eq (applyDurableEvent_not_accepted accepts).2.2

end ParityGrid.Web
