import ParityGrid.Web.Live.LiveRunChannel

/-!
# Runs of the live view

The reducer advances frame by frame whatever the stream does.  The stream and
the reducer count separately; they stay aligned as long as the projection has
room for every frame that reaches the reducer.
-/

namespace ParityGrid.Web

open ParityGrid.Foundation

namespace LiveRunChannel

variable {before middle after channel : LiveRunChannel}

/-- What a turn may show: no version below one that was shown before. -/
structure Shows (before after : LiveRunChannel) : Prop where
  durable : VersionKept before.durable after.durable
  snapshot : VersionKept before.snapshot.durable before.durable →
    VersionKept before.snapshot.durable after.snapshot.durable ∧
      VersionKept after.snapshot.durable after.durable
  ended : before.stream.disposed = before.disposed →
    after.stream.disposed = after.disposed

/-- What moves neither of the two sequences. -/
structure Steady (before after : LiveRunChannel) : Prop
    extends Shows before after where
  accepted : after.durable.acceptedSequence = before.durable.acceptedSequence
  events : after.durable.events = before.durable.events
  applied : after.applied = before.applied
  stream : after.stream.acceptedSequence = before.stream.acceptedSequence
  recoveries : ∀ recovery ∈ after.stream.recoveries,
    recovery ∈ before.stream.recoveries ∨
      recovery.resumeSequence = before.stream.acceptedSequence

theorem Shows.trans (former : Shows before middle)
    (latter : Shows middle after) : Shows before after where
  durable := former.durable.trans latter.durable
  snapshot shown := by
    rcases former.snapshot shown with ⟨kept, current⟩
    rcases latter.snapshot current with ⟨later, last⟩
    exact ⟨kept.trans later, last⟩
  ended same := latter.ended (former.ended same)

theorem Steady.refl (channel : LiveRunChannel) : Steady channel channel where
  durable := .refl _
  snapshot shown := ⟨.refl _, shown⟩
  ended same := same
  accepted := rfl
  events := rfl
  applied := rfl
  stream := rfl
  recoveries _ pending := .inl pending

theorem Steady.trans (former : Steady before middle)
    (latter : Steady middle after) : Steady before after where
  toShows := former.toShows.trans latter.toShows
  accepted := latter.accepted.trans former.accepted
  events := latter.events.trans former.events
  applied := latter.applied.trans former.applied
  stream := latter.stream.trans former.stream
  recoveries recovery pending := by
    rcases latter.recoveries recovery pending with held | now
    · exact former.recoveries recovery held
    · exact .inr (now.trans former.stream)

/-- `Steady.trans`, with the last operation first. -/
theorem Steady.since (latter : Steady middle after)
    (former : Steady before middle) : Steady before after :=
  former.trans latter

/-! ## Each operation -/

theorem publish_steady (channel : LiveRunChannel) :
    Steady channel channel.publish where
  durable := .refl _
  snapshot shown := ⟨shown, .refl _⟩
  ended same := same
  accepted := rfl
  events := rfl
  applied := rfl
  stream := rfl
  recoveries _ pending := .inl pending

theorem setStream_shows {stream : DurableRunStream}
    (ended : stream.disposed = channel.stream.disposed) :
    Shows channel (channel.setStream stream) where
  durable := .refl _
  snapshot shown := ⟨.refl _, shown⟩
  ended same := ended.trans same

theorem setStream_steady {stream : DurableRunStream}
    (ended : stream.disposed = channel.stream.disposed)
    (accepted : stream.acceptedSequence = channel.stream.acceptedSequence)
    (recoveries : ∀ recovery ∈ stream.recoveries,
      recovery ∈ channel.stream.recoveries ∨
        recovery.resumeSequence = channel.stream.acceptedSequence) :
    Steady channel (channel.setStream stream) where
  toShows := setStream_shows ended
  accepted := rfl
  events := rfl
  applied := rfl
  stream := accepted
  recoveries := recoveries

theorem display_steady {durable : DurableRunState}
    (accepted : durable.acceptedSequence = channel.durable.acceptedSequence)
    (events : durable.events = channel.durable.events)
    (kept : VersionKept channel.durable durable) :
    Steady channel (channel.display durable) where
  durable := kept
  snapshot shown := ⟨shown.trans kept, .refl _⟩
  ended same := same
  accepted := accepted
  events := events
  applied := rfl
  stream := rfl
  recoveries _ pending := .inl pending

theorem setStatus_steady (channel : LiveRunChannel)
    (patch : DurableStreamStatus → DurableStreamStatus) :
    Steady channel (channel.setStatus patch) :=
  .since (publish_steady _)
    (setStream_steady rfl rfl fun _ pending => .inl pending)

theorem handleExhausted_steady (channel : LiveRunChannel)
    (reason : RecoveryReason) :
    Steady channel (channel.handleExhausted reason) := by
  simp only [handleExhausted]
  split
  · exact .refl _
  · exact display_steady rfl rfl (.of_eq rfl)

theorem connect_steady (channel : LiveRunChannel) :
    Steady channel channel.connect := by
  simp only [connect]
  split
  · exact .refl _
  · exact .since (setStatus_steady _ _)
      (setStream_steady rfl rfl fun _ pending => .inl pending)

theorem exhaust_steady (channel : LiveRunChannel) (reason : RecoveryReason) :
    Steady channel (channel.exhaust reason) :=
  .since (handleExhausted_steady _ _) (setStatus_steady _ _)

theorem setRecovering_steady (channel : LiveRunChannel)
    (reason : RecoveryReason) :
    Steady channel (channel.setRecovering reason) :=
  setStatus_steady _ _

theorem scheduleReconnect_steady (channel : LiveRunChannel)
    (reason : RecoveryReason) :
    Steady channel (channel.scheduleReconnect reason) := by
  simp only [scheduleReconnect]
  split
  · exact .refl _
  have counts : Steady channel (channel.setStream
      { channel.stream with
        attemptsUsed := channel.stream.attemptsUsed + 1 }) :=
    setStream_steady rfl rfl fun _ pending => .inl pending
  split
  · exact counts.trans (exhaust_steady _ _)
  · exact (counts.trans (setRecovering_steady _ reason)).trans
      (setStream_steady rfl rfl fun _ pending => .inl pending)

theorem handleRecovery_steady (channel : LiveRunChannel)
    (reason : RecoveryReason) :
    Steady channel (channel.handleRecovery reason) := by
  simp only [handleRecovery]
  split
  · exact .refl _
  · exact display_steady rfl rfl (.of_eq rfl)

theorem enterRecovery_steady (channel : LiveRunChannel)
    (reason : RecoveryReason) (resumeFromZero : Bool) :
    Steady channel (channel.enterRecovery reason resumeFromZero) := by
  simp only [enterRecovery]
  split
  · exact .refl _
  have counts : Steady channel (channel.setStream
      { channel.stream with
        abortController := none
        connecting := false
        attemptsUsed := channel.stream.attemptsUsed + 1 }) :=
    setStream_steady rfl rfl fun _ pending => .inl pending
  split
  · exact counts.trans (exhaust_steady _ _)
  have waits := counts.trans
    ((setRecovering_steady _ reason).trans (handleRecovery_steady _ reason))
  refine waits.trans (setStream_steady rfl rfl ?_)
  intro recovery pending
  rcases List.mem_append.mp pending with held | added
  · exact .inl held
  · rw [List.mem_singleton] at added
    subst added
    exact .inr waits.stream.symm

theorem startStream_steady (channel : LiveRunChannel) :
    Steady channel channel.startStream := by
  simp only [startStream]
  split
  · exact .refl _
  · exact .since (connect_steady _)
      (setStream_steady rfl rfl fun _ pending => .inl pending)

theorem handleConnectionEnd_steady (channel : LiveRunChannel)
    (result : SseConnectionResult) :
    Steady channel (channel.handleConnectionEnd result) := by
  simp only [handleConnectionEnd]
  split
  · exact .refl _
  split
  · exact enterRecovery_steady _ _ _
  · exact .since (handleExhausted_steady _ _) (setStatus_steady _ _)
  · exact enterRecovery_steady _ _ _
  · exact scheduleReconnect_steady _ _

theorem handleCacheEvent_steady (channel : LiveRunChannel)
    (event : CacheEvent) :
    Steady channel (channel.handleCacheEvent event) := by
  simp only [handleCacheEvent]
  split
  · exact .refl _
  split
  · exact .refl _
  split
  · exact .refl _
  next run _ =>
    rcases applyRunSnapshot_frame channel.durable run with
      ⟨accepted, events, -, -⟩
    exact display_steady accepted events (applyRunSnapshot_version _ _)

/-- Changing how many calls of `start` wait moves nothing else. -/
theorem starts_steady (channel : LiveRunChannel) (starts : Nat) :
    Steady channel { channel with starts := starts } where
  durable := .refl _
  snapshot shown := ⟨.refl _, shown⟩
  ended same := same
  accepted := rfl
  events := rfl
  applied := rfl
  stream := rfl
  recoveries _ pending := .inl pending

theorem start_steady (channel : LiveRunChannel) :
    Steady channel channel.start := by
  simp only [start]
  split
  · exact .refl _
  · rcases markLoading_frame channel.durable with ⟨accepted, events, run⟩
    exact (display_steady accepted events (.of_eq run)).trans
      (starts_steady _ _)

theorem started_steady (channel : LiveRunChannel)
    (result : Except JsString RunResponse) :
    Steady channel (channel.started result) := by
  simp only [started]
  split
  · exact .refl _
  refine (starts_steady channel (channel.starts - 1)).trans ?_
  split
  · exact .refl _
  refine .trans ?_ (startStream_steady _)
  cases result with
  | error detail => exact display_steady rfl rfl (.of_eq rfl)
  | ok run =>
      rcases applyRunSnapshot_frame channel.durable run with
        ⟨accepted, events, -, -⟩
      exact display_steady accepted events (applyRunSnapshot_version _ _)

theorem dispose_steady (channel : LiveRunChannel) :
    Steady channel channel.dispose := by
  simp only [dispose]
  split
  · exact .refl _
  · refine .trans ?_ (publish_steady _)
    exact {
      durable := .refl _
      snapshot := fun shown => ⟨.refl _, shown⟩
      ended := fun _ => rfl
      accepted := rfl
      events := rfl
      applied := rfl
      stream := rfl
      recoveries := fun _ pending => .inl pending }

/-! ## Frames -/

/-- The reducer holds the frames from the first on, each once and in order. -/
structure Ordered (channel : LiveRunChannel) : Prop where
  numbered : channel.applied.map (fun frame => frame.sequence) =
    (List.range channel.durable.acceptedSequence).map (· + 1)
  logged : channel.durable.events = channel.applied.reverse.take maxEventLog
  shown : VersionKept channel.snapshot.durable channel.durable
  ended : channel.stream.disposed = channel.disposed

/-- Nothing the stream may resume from lies beyond the reducer. -/
structure Aligned (channel : LiveRunChannel) : Prop where
  stream : channel.stream.acceptedSequence ≤ channel.durable.acceptedSequence
  recoveries : ∀ recovery ∈ channel.stream.recoveries,
    recovery.resumeSequence ≤ channel.durable.acceptedSequence

theorem Steady.ordered (steady : Steady before after)
    (ordered : Ordered before) : Ordered after where
  numbered := by rw [steady.applied, steady.accepted, ordered.numbered]
  logged := by rw [steady.applied, steady.events, ordered.logged]
  shown := (steady.snapshot ordered.shown).2
  ended := steady.ended ordered.ended

theorem Steady.aligned (steady : Steady before after)
    (aligned : Aligned before) : Aligned after where
  stream := by rw [steady.stream, steady.accepted]; exact aligned.stream
  recoveries recovery pending := by
    rw [steady.accepted]
    rcases steady.recoveries recovery pending with held | now
    · exact aligned.recoveries recovery held
    · rw [now]; exact aligned.stream

/-- The channel once the reducer has taken a compatible frame. -/
def reduce (channel : LiveRunChannel) (frame : DurableEventFrame) :
    LiveRunChannel :=
  { channel with
    applied :=
      if acceptsFrame channel.durable frame then channel.applied ++ [frame]
      else channel.applied }.display (applyDurableEvent channel.durable frame)

theorem handleFrame_compatible {frame : DurableEventFrame}
    (running : channel.disposed = false)
    (compatible : durableFrameCompatibility channel.durable frame = none) :
    channel.handleFrame frame = (channel.reduce frame, none) := by
  rw [handleFrame, if_neg (by simp [running]), compatible]
  rfl

theorem handleFrame_eq (channel : LiveRunChannel)
    (frame : DurableEventFrame) :
    (∃ reason, channel.handleFrame frame = (channel, some reason)) ∨
      (durableFrameCompatibility channel.durable frame = none ∧
        channel.handleFrame frame = (channel.reduce frame, none)) := by
  simp only [handleFrame]
  split
  · exact .inl ⟨_, rfl⟩
  split
  · exact .inl ⟨_, rfl⟩
  next compatible => exact .inr ⟨compatible, rfl⟩

theorem reduce_shows (channel : LiveRunChannel) (frame : DurableEventFrame) :
    Shows channel (channel.reduce frame) where
  durable := applyDurableEvent_version _ _
  snapshot shown :=
    ⟨shown.trans (applyDurableEvent_version _ _), .refl _⟩
  ended same := same

theorem reduce_ordered {frame : DurableEventFrame} (ordered : Ordered channel) :
    Ordered (channel.reduce frame) := by
  have shows := reduce_shows channel frame
  cases accepts : acceptsFrame channel.durable frame with
  | false =>
      rcases applyDurableEvent_not_accepted accepts with ⟨sequence, events, -⟩
      exact {
        numbered := by
          simpa [reduce, display, publish, accepts, sequence] using
            ordered.numbered
        logged := by
          simpa [reduce, display, publish, accepts, events] using ordered.logged
        shown := (shows.snapshot ordered.shown).2
        ended := shows.ended ordered.ended }
  | true =>
      rcases applyDurableEvent_accepted accepts with
        ⟨sequence, events, -, -, -⟩
      have next : frame.sequence = channel.durable.acceptedSequence + 1 := by
        simp only [acceptsFrame, Bool.and_eq_true, beq_iff_eq] at accepts
        exact accepts.1.2
      exact {
        numbered := by
          simp [reduce, display, publish, accepts, sequence, next,
            List.range_succ, ordered.numbered]
        logged := by
          simp [reduce, display, publish, accepts, events, ordered.logged,
            maxEventLog, List.take_take]
        shown := (shows.snapshot ordered.shown).2
        ended := shows.ended ordered.ended }

/-- How far the reducer is once it has taken a frame. -/
theorem reduce_acceptedSequence (channel : LiveRunChannel)
    (frame : DurableEventFrame) :
    (channel.reduce frame).durable.acceptedSequence =
      if acceptsFrame channel.durable frame then frame.sequence
      else channel.durable.acceptedSequence := by
  cases accepts : acceptsFrame channel.durable frame with
  | false => exact (applyDurableEvent_not_accepted accepts).1
  | true => exact (applyDurableEvent_accepted accepts).1

/-- The channel once the stream has accepted what the reducer took. -/
def follow (channel : LiveRunChannel) (frame : DurableEventFrame) :
    LiveRunChannel :=
  ((channel.reduce frame).setStream
    { (channel.reduce frame).stream with
      acceptedSequence := frame.sequence }).setStatus fun status =>
    { status with kind := .live, acceptedSequence := frame.sequence }

theorem follow_shows (channel : LiveRunChannel) (frame : DurableEventFrame) :
    Shows channel (channel.follow frame) where
  durable := (reduce_shows channel frame).durable
  snapshot shown := ⟨shown.trans (reduce_shows channel frame).durable, .refl _⟩
  ended same := same

theorem follow_ordered {frame : DurableEventFrame} (ordered : Ordered channel) :
    Ordered (channel.follow frame) := by
  have reduced : Ordered (channel.reduce frame) := reduce_ordered ordered
  exact {
    numbered := reduced.numbered
    logged := reduced.logged
    shown := .refl _
    ended := reduced.ended }

/-- The frame is not one that the projection has no room for. -/
def WithinNodeLimit (state : DurableRunState) (frame : DurableEventFrame) :
    Prop :=
  frame.sequence = state.acceptedSequence + 1 →
    exceedsNodeLimit state frame = false

theorem follow_aligned {frame : DurableEventFrame} (aligned : Aligned channel)
    (next : frame.sequence = channel.stream.acceptedSequence + 1)
    (compatible : durableFrameCompatibility channel.durable frame = none)
    (fits : WithinNodeLimit channel.durable frame) :
    Aligned (channel.follow frame) := by
  have reached :
      channel.durable.acceptedSequence ≤
          (channel.reduce frame).durable.acceptedSequence ∧
        frame.sequence ≤ (channel.reduce frame).durable.acceptedSequence := by
    rw [reduce_acceptedSequence]
    have behind := aligned.stream
    by_cases frontier : frame.sequence = channel.durable.acceptedSequence + 1
    · have accepts : acceptsFrame channel.durable frame = true := by
        simp [acceptsFrame, compatible, frontier, fits frontier]
      rw [if_pos accepts]
      omega
    · have rejects : acceptsFrame channel.durable frame = false := by
        simp [acceptsFrame, frontier]
      simp only [rejects, Bool.false_eq_true, if_false]
      omega
  exact {
    stream := reached.2
    recoveries := fun recovery pending =>
      (aligned.recoveries recovery pending).trans reached.1 }

/-! ## Recoveries -/

/-- Dropping a settled recovery moves nothing else. -/
theorem settled_steady (channel : LiveRunChannel) (index : Nat) :
    Steady channel (channel.setStream
      { channel.stream with
        recoveries := channel.stream.recoveries.eraseIdx index }) :=
  setStream_steady rfl rfl fun _ pending =>
    .inl (List.mem_of_mem_eraseIdx pending)

theorem resumeAt_shows (channel : LiveRunChannel) (target : Nat) :
    Shows channel (channel.resumeAt target) := by
  refine .trans ?_ (connect_steady _).toShows
  exact {
    durable := .refl _
    snapshot := fun shown => ⟨shown, .refl _⟩
    ended := fun same => same }

theorem resumeAt_ordered {target : Nat} (ordered : Ordered channel) :
    Ordered (channel.resumeAt target) :=
  (connect_steady _).ordered {
    numbered := ordered.numbered
    logged := ordered.logged
    shown := .refl _
    ended := ordered.ended }

theorem resumeAt_aligned {target : Nat} (aligned : Aligned channel)
    (reached : target ≤ channel.durable.acceptedSequence) :
    Aligned (channel.resumeAt target) :=
  (connect_steady _).aligned {
    stream := reached
    recoveries := aligned.recoveries }

theorem recovered_eq (channel : LiveRunChannel) (index : Nat)
    (handled : Bool) :
    Steady channel (channel.recovered index handled) ∨
      ∃ settled, ∃ recovery ∈ channel.stream.recoveries, ∃ target,
        Steady channel settled ∧
        (target = 0 ∨ target = recovery.resumeSequence) ∧
        channel.recovered index handled = settled.resumeAt target := by
  simp only [recovered]
  split
  · exact .inl (.refl _)
  next recovery pending =>
    split
    · exact .inl (settled_steady _ _)
    split
    · refine .inr ⟨_, recovery, List.mem_of_getElem? pending, _,
        settled_steady _ _, ?_, rfl⟩
      split
      · exact .inl rfl
      · exact .inr rfl
    · exact .inl ((settled_steady _ _).trans (scheduleReconnect_steady _ _))

/-! ## Turns -/

variable [IssueText]

theorem handleMessage_eq (channel : LiveRunChannel) (message : SseMessage) :
    Steady channel (channel.handleMessage message) ∨
      ∃ frame,
        channel.stream.checkMessage message = .frame frame ∧
        durableFrameCompatibility channel.durable frame = none ∧
        channel.handleMessage message = channel.follow frame := by
  simp only [handleMessage]
  cases verdict : channel.stream.checkMessage message with
  | ignored => exact .inl (.refl _)
  | recovers reason => exact .inl (enterRecovery_steady _ _ _)
  | frame frame =>
      dsimp only
      rcases handleFrame_eq channel frame with
        ⟨reason, handled⟩ | ⟨compatible, handled⟩
      · rw [handled]
        exact .inl (enterRecovery_steady _ _ _)
      · rw [handled]
        exact .inr ⟨frame, rfl, compatible, rfl⟩

/-- A turn is steady, or the reducer takes a frame, or a recovery resumes. -/
theorem step_cases (channel : LiveRunChannel) (turn : Turn) :
    Steady channel (channel.step turn) ∨
      (∃ controller message frame,
        turn = .message controller message ∧
        channel.stream.abortController = some controller ∧
        channel.stream.checkMessage message = .frame frame ∧
        durableFrameCompatibility channel.durable frame = none ∧
        channel.step turn = channel.follow frame) ∨
      ∃ settled, ∃ recovery ∈ channel.stream.recoveries, ∃ target,
        Steady channel settled ∧
        (target = 0 ∨ target = recovery.resumeSequence) ∧
        channel.step turn = settled.resumeAt target := by
  cases turn with
  | start => exact .inl (start_steady _)
  | started result => exact .inl (started_steady _ _)
  | cacheEvent event => exact .inl (handleCacheEvent_steady _ _)
  | telemetry =>
      left
      simp only [step]
      split
      · exact .refl _
      · exact publish_steady _
  | message controller message =>
      simp only [step]
      split
      next current =>
        rcases handleMessage_eq channel message with
          steady | ⟨frame, verdict, compatible, handled⟩
        · exact .inl steady
        · exact .inr (.inl ⟨controller, message, frame, rfl, current, verdict,
            compatible, handled⟩)
      next => exact .inl (.refl _)
  | connectionEnds controller result =>
      left
      simp only [step]
      split
      · exact .since (handleConnectionEnd_steady _ _)
          (setStream_steady rfl rfl fun _ pending => .inl pending)
      · exact .refl _
  | recovered index handled =>
      rcases recovered_eq channel index handled with steady | resumed
      · exact .inl steady
      · exact .inr (.inr resumed)
  | timer =>
      left
      simp only [step]
      split
      · exact .since (connect_steady _)
          (setStream_steady rfl rfl fun _ pending => .inl pending)
      · exact .refl _
  | dispose => exact .inl (dispose_steady _)

theorem step_shows (channel : LiveRunChannel) (turn : Turn) :
    Shows channel (channel.step turn) := by
  rcases step_cases channel turn with
    steady | ⟨_, _, frame, -, -, -, -, moved⟩ |
      ⟨settled, _, -, target, steady, -, moved⟩
  · exact steady.toShows
  · rw [moved]
    exact follow_shows channel frame
  · rw [moved]
    exact steady.toShows.trans (resumeAt_shows settled target)

theorem step_ordered {turn : Turn} (ordered : Ordered channel) :
    Ordered (channel.step turn) := by
  rcases step_cases channel turn with
    steady | ⟨_, _, frame, -, -, -, -, moved⟩ |
      ⟨settled, _, -, target, steady, -, moved⟩
  · exact steady.ordered ordered
  · rw [moved]
    exact follow_ordered ordered
  · rw [moved]
    exact resumeAt_ordered (steady.ordered ordered)

/-- A frame that reaches the reducer from the current connection has room. -/
def FitsProjection (channel : LiveRunChannel) : Turn → Prop
  | .message controller message =>
      ∀ frame, channel.stream.abortController = some controller →
        channel.stream.checkMessage message = .frame frame →
        durableFrameCompatibility channel.durable frame = none →
        WithinNodeLimit channel.durable frame
  | _ => True

theorem step_aligned {turn : Turn} (aligned : Aligned channel)
    (fits : FitsProjection channel turn) : Aligned (channel.step turn) := by
  rcases step_cases channel turn with
    steady | ⟨controller, message, frame, rfl, current, verdict, compatible,
        moved⟩ |
      ⟨settled, recovery, pending, target, steady, chosen, moved⟩
  · exact steady.aligned aligned
  · rw [moved]
    exact follow_aligned aligned (channel.stream.checkMessage_frame verdict)
      compatible (fits frame current verdict compatible)
  · rw [moved]
    refine resumeAt_aligned (steady.aligned aligned) ?_
    rw [steady.accepted]
    rcases chosen with rfl | rfl
    · exact Nat.zero_le _
    · exact aligned.recoveries recovery pending

/-- What two states of a disposed channel share. -/
structure Frozen (before after : LiveRunChannel) : Prop where
  durable : after.durable = before.durable
  applied : after.applied = before.applied
  stream : after.stream.acceptedSequence = before.stream.acceptedSequence
  snapshot : after.snapshot = before.snapshot

theorem step_frozen {turn : Turn} (disposed : channel.disposed = true)
    (ended : channel.stream.disposed = channel.disposed) :
    Frozen channel (channel.step turn) := by
  have stopped : channel.stream.disposed = true := ended.trans disposed
  have same : Frozen channel channel := ⟨rfl, rfl, rfl, rfl⟩
  cases turn with
  | start => simpa [step, start, disposed] using same
  | started result =>
      simp only [step, started, disposed, if_true]
      split
      · exact same
      · exact ⟨rfl, rfl, rfl, rfl⟩
  | cacheEvent event => simpa [step, handleCacheEvent, disposed] using same
  | telemetry => simpa [step, disposed] using same
  | message controller message =>
      have ignored : channel.handleMessage message = channel := by
        simp [handleMessage, DurableRunStream.checkMessage, stopped]
      simpa [step, ignored] using same
  | connectionEnds controller result =>
      simp only [step]
      split
      · simp only [handleConnectionEnd, setStream, stopped, if_true]
        exact ⟨rfl, rfl, rfl, rfl⟩
      · exact same
  | recovered index handled =>
      simp only [step, recovered, stopped, if_true]
      split
      · exact same
      · exact ⟨rfl, rfl, rfl, rfl⟩
  | timer =>
      simp only [step]
      split
      · simp only [connect, setStream, stopped, true_or, if_true]
        exact ⟨rfl, rfl, rfl, rfl⟩
      · exact same
  | dispose => simpa [step, dispose, disposed] using same

end LiveRunChannel

section Runs

open LiveRunChannel

theorem newLiveRunChannel_ordered (runId : JsString) :
    Ordered (newLiveRunChannel runId) :=
  ⟨rfl, rfl, .refl _, rfl⟩

theorem newLiveRunChannel_aligned (runId : JsString) :
    Aligned (newLiveRunChannel runId) where
  stream := Nat.le_refl _
  recoveries _ pending := nomatch pending

variable [IssueText] {runId : JsString}

theorem reachable_ordered {channel : LiveRunChannel}
    (reached : (liveRunSystem runId).Reachable channel) :
    Ordered channel := by
  refine reached.invariant ?_ ?_
  · rintro _ rfl
    exact newLiveRunChannel_ordered runId
  · rintro state turn _ - ordered rfl
    exact step_ordered ordered

theorem reachable_aligned {channel : LiveRunChannel}
    (reached : ((liveRunSystem runId).restrict FitsProjection).Reachable
      channel) :
    Aligned channel := by
  refine reached.invariant ?_ ?_
  · rintro _ rfl
    exact newLiveRunChannel_aligned runId
  · rintro state turn _ - aligned ⟨rfl, fits⟩
    exact step_aligned aligned fits

/-- A live view that neither skips nor repeats a durable event. -/
structure Contiguous (channel : LiveRunChannel) : Prop where
  /-- The frames applied are those numbered from 1 on, each once, in order. -/
  numbered : channel.applied.map (fun frame => frame.sequence) =
    (List.range channel.durable.acceptedSequence).map (· + 1)
  logged : channel.durable.events = channel.applied.reverse.take maxEventLog
  /-- The stream has not passed over a frame that the reducer lacks. -/
  aligned : channel.stream.acceptedSequence ≤ channel.durable.acceptedSequence
  superseded : ∀ controller message,
    channel.stream.abortController ≠ some controller →
      channel.step (.message controller message) = channel
  shown : ∀ turn, VersionKept channel.snapshot.durable
    (channel.step turn).snapshot.durable
  disposed : channel.disposed = true →
    ∀ turn, Frozen channel (channel.step turn)

/-- As long as every frame fits the projection, the view is contiguous. -/
theorem liveRunChannel_contiguous {channel : LiveRunChannel}
    (reached : ((liveRunSystem runId).restrict FitsProjection).Reachable
      channel) :
    Contiguous channel := by
  have ordered := reachable_ordered reached.of_restrict
  have aligned := reachable_aligned reached
  exact {
    numbered := ordered.numbered
    logged := ordered.logged
    aligned := aligned.stream
    superseded := fun controller message other => by
      simp only [step, if_neg other]
    shown := fun turn => ((step_shows channel turn).snapshot ordered.shown).1
    disposed := fun ended turn => step_frozen ended ordered.ended }

end Runs

/-! ## A run that names ever more nodes -/

section Overflow

open LiveRunChannel

/-- The name of the node that an event is about. -/
def sampleNode (n : Nat) : JsString :=
  List.replicate n 0x6E

def sampleFrame (n : Nat) : DurableEventFrame where
  sequence := n
  runId := js "run_1"
  eventKind := js "node.started"
  subjectKind := js "node"
  subjectId := js "nod_1"
  occurredAt := js "2026-01-01T00:00:00Z"
  correlationId := none
  payloadSchemaVersion := 1
  payload := [(js "node_id", .string (sampleNode n))]

/-- The envelope of one event about a node. -/
def sampleFields (n : Nat) : List (JsString × JsValue) :=
  [ (js "schema_version", .number (.finite 1)),
    (js "channel", .string (js "durable-events")),
    (js "sequence", .number (.finite n)),
    (js "run_id", .string (js "run_1")),
    (js "event_kind", .string (js "node.started")),
    (js "subject_kind", .string (js "node")),
    (js "subject_id", .string (js "nod_1")),
    (js "occurred_at", .string (js "2026-01-01T00:00:00Z")),
    (js "payload_schema_version", .number (.finite 1)),
    (js "payload", .object [(js "node_id", .string (sampleNode n))])]

def sampleMessage (n : Nat) : SseMessage :=
  ⟨none, none, some (.object (sampleFields n))⟩

theorem sampleFields_known (n : Nat) :
    Schema.strictObject durableEventFrameKeys (.object (sampleFields n)) =
      some (sampleFields n) := by
  simp [Schema.strictObject, sampleFields, durableEventFrameKeys]

theorem sampleFields_parsed {n : Nat} (first : 1 ≤ n)
    (last : n ≤ 2147483647) :
    durableEventFrameSchema (.object (sampleFields n)) =
      some (sampleFrame n) := by
  have small : n ≤ 9007199254740991 := by omega
  have within : (1 : Int) ≤ n ∧ (n : Int) ≤ 2147483647 := by omega
  have one : (JsNumber.finite 1).safeInteger = some 1 := by
    simpa using JsNumber.safeInteger_natCast (n := 1) (by decide)
  have lengths : (js "run_1").length = 5 ∧ (js "node.started").length = 12 ∧
      (js "node").length = 4 ∧ (js "nod_1").length = 5 ∧
      (js "2026-01-01T00:00:00Z").length = 20 := by
    decide
  obtain ⟨runId, eventKind, subjectKind, subjectId, occurredAt⟩ := lengths
  rw [durableEventFrameSchema, sampleFields_known]
  simp [sampleFields, requiredField, nullishField, optionalField, member,
    List.lookup, Schema.literalNumber, Schema.literalString, Schema.natural,
    Schema.int, Schema.string, Schema.record, sampleFrame, runId, eventKind,
    subjectKind, subjectId, occurredAt, within, small, one]

/-- A live channel that has taken the first `n` of these frames. -/
structure Sampled (n : Nat) (channel : LiveRunChannel) : Prop where
  connected : channel.stream.abortController = some 0
  running : channel.disposed = false
  open_ : channel.stream.disposed = false
  receiving : channel.stream.status.kind ≠ .recovering
  streamRun : channel.stream.runId = js "run_1"
  durableRun : channel.durable.runId = js "run_1"
  stream : channel.stream.acceptedSequence = n
  durable : channel.durable.acceptedSequence = n
  nodes : channel.durable.nodeEvents.length = n
  names : ∀ event ∈ channel.durable.nodeEvents,
    ∃ i, i ≤ n ∧ frameNode event = some (sampleNode i)

theorem sampleNode_injective : Function.Injective sampleNode := by
  intro left right equal
  simpa [sampleNode] using congrArg List.length equal

theorem sampleFrame_node {n : Nat} (first : 1 ≤ n) :
    frameNode (sampleFrame n) = some (sampleNode n) := by
  have named : sampleNode n ≠ [] := by
    intro empty
    have := congrArg List.length empty
    simp [sampleNode] at this
    omega
  simp [frameNode, sampleFrame, member, named]

theorem sampleFrame_compatible {n : Nat} {channel : LiveRunChannel}
    (sampled : Sampled n channel) :
    durableFrameCompatibility channel.durable (sampleFrame (n + 1)) = none := by
  simp [durableFrameCompatibility, sampleFrame, sampled.durableRun, member,
    List.lookup]

/-- Up to the limit there is room for every new node. -/
theorem sampleFrame_fits {n : Nat} {channel : LiveRunChannel}
    (sampled : Sampled n channel) (room : n < maxNodeEventProjection) :
    exceedsNodeLimit channel.durable (sampleFrame (n + 1)) = false := by
  simp only [exceedsNodeLimit, sampleFrame_node (Nat.le_add_left 1 n),
    Option.any_some, sampled.nodes, Bool.and_eq_false_iff,
    decide_eq_false_iff_not]
  right
  omega

/-- At the limit there is none: every node that is known has another name. -/
theorem sampleFrame_exceeds {n : Nat} {channel : LiveRunChannel}
    (sampled : Sampled n channel) (full : maxNodeEventProjection ≤ n) :
    exceedsNodeLimit channel.durable (sampleFrame (n + 1)) = true := by
  simp only [exceedsNodeLimit, sampleFrame_node (Nat.le_add_left 1 n),
    Option.any_some, sampled.nodes, full, decide_true, Bool.and_true,
    List.all_eq_true, bne_iff_ne]
  intro event known same
  rcases sampled.names event known with ⟨i, bound, named⟩
  rw [named, Option.some.injEq] at same
  have := sampleNode_injective same
  omega

theorem sampled_next {n : Nat} {channel : LiveRunChannel}
    (sampled : Sampled n channel) (room : n < maxNodeEventProjection) :
    Sampled (n + 1) (channel.follow (sampleFrame (n + 1))) := by
  have accepts : acceptsFrame channel.durable (sampleFrame (n + 1)) = true := by
    have next : (sampleFrame (n + 1)).sequence = n + 1 := rfl
    simp [acceptsFrame, sampleFrame_compatible sampled,
      sampleFrame_fits sampled room, sampled.durable, next]
  rcases applyDurableEvent_accepted accepts with
    ⟨sequence, -, nodes, runId, -⟩
  have others : channel.durable.nodeEvents.filter (fun event =>
      frameNode event != some (sampleNode (n + 1))) =
        channel.durable.nodeEvents := by
    rw [List.filter_eq_self]
    intro event known
    rcases sampled.names event known with ⟨i, bound, named⟩
    rw [named, bne_iff_ne, ne_eq, Option.some.injEq]
    intro same
    have := sampleNode_injective same
    omega
  have node := sampleFrame_node (Nat.le_add_left 1 n)
  have projected : (applyDurableEvent channel.durable
      (sampleFrame (n + 1))).nodeEvents =
        sampleFrame (n + 1) :: channel.durable.nodeEvents := by
    rw [nodes, projectNode, node]
    simp only [others]
  exact {
    connected := sampled.connected
    running := sampled.running
    open_ := sampled.open_
    receiving := by simp [follow, setStatus, setStream, publish]
    streamRun := sampled.streamRun
    durableRun := runId.trans sampled.durableRun
    stream := rfl
    durable := sequence
    nodes := by
      show (applyDurableEvent _ _).nodeEvents.length = _
      rw [projected, List.length_cons, sampled.nodes]
    names := by
      show ∀ event ∈ (applyDurableEvent _ _).nodeEvents, _
      rw [projected]
      intro event known
      rcases List.mem_cons.mp known with rfl | earlier
      · exact ⟨n + 1, Nat.le_refl _, node⟩
      · rcases sampled.names event earlier with ⟨i, bound, named⟩
        exact ⟨i, bound.trans (Nat.le_succ n), named⟩ }

/-- The first node too many leaves the stream ahead of the reducer. -/
theorem sampled_overflow {channel : LiveRunChannel}
    (sampled : Sampled maxNodeEventProjection channel) :
    (channel.follow (sampleFrame (maxNodeEventProjection + 1))
      ).durable.acceptedSequence <
    (channel.follow (sampleFrame (maxNodeEventProjection + 1))
      ).stream.acceptedSequence := by
  have exceeds := sampleFrame_exceeds sampled (Nat.le_refl _)
  have rejects : acceptsFrame channel.durable
      (sampleFrame (maxNodeEventProjection + 1)) = false := by
    simp [acceptsFrame, exceeds]
  have kept := (applyDurableEvent_not_accepted rejects).1
  show (applyDurableEvent _ _).acceptedSequence < maxNodeEventProjection + 1
  rw [kept, sampled.durable]
  exact Nat.lt_succ_self _

variable [IssueText]

theorem sampleMessage_checked {n : Nat} {channel : LiveRunChannel}
    (sampled : Sampled n channel) (last : n < 2147483647) :
    channel.stream.checkMessage (sampleMessage (n + 1)) =
      .frame (sampleFrame (n + 1)) := by
  have parsed := sampleFields_parsed (n := n + 1) (by omega) (by omega)
  have kind : (js "node" = js "run") = False := by
    simp [js_injective.eq_iff]
  simp only [DurableRunStream.checkMessage, sampled.open_, sampled.receiving,
    Bool.false_eq_true, or_self, if_false, sampleMessage, parseDurableFrame,
    parsed]
  simp [DurableRunStream.checkFrame, sampleFrame, sampled.streamRun,
    sampled.stream, kind]

/-- The next frame is taken by the stream, whatever the reducer does. -/
theorem sampleMessage_step {n : Nat} {channel : LiveRunChannel}
    (sampled : Sampled n channel) (last : n < 2147483647) :
    channel.step (.message 0 (sampleMessage (n + 1))) =
      channel.follow (sampleFrame (n + 1)) := by
  simp only [step, sampled.connected, if_true, handleMessage,
    sampleMessage_checked sampled last]
  rw [handleFrame_compatible sampled.running (sampleFrame_compatible sampled)]
  rfl

/-- A run of conforming frames reaches every number up to the limit. -/
theorem sampled_reachable {n : Nat} (bound : n ≤ maxNodeEventProjection) :
    ∃ channel,
      ((liveRunSystem (js "run_1")).restrict FitsProjection).Reachable channel ∧
        Sampled n channel := by
  induction n with
  | zero =>
      have starts : ((liveRunSystem (js "run_1")).restrict FitsProjection).Step
          (newLiveRunChannel (js "run_1")) .start _ := ⟨rfl, trivial⟩
      have fails : ((liveRunSystem (js "run_1")).restrict FitsProjection).Step
          ((newLiveRunChannel (js "run_1")).step .start)
          (.started (.error [])) _ := ⟨rfl, trivial⟩
      refine ⟨_, .step (.step (.initial rfl) starts) fails, ?_⟩
      exact {
        connected := rfl
        running := rfl
        open_ := rfl
        receiving := fun same =>
          nomatch (show StreamKind.connecting = .recovering from same)
        streamRun := rfl
        durableRun := rfl
        stream := rfl
        durable := rfl
        nodes := rfl
        names := nofun }
  | succ n ih =>
      rcases ih (Nat.le_of_succ_le bound) with ⟨channel, reached, sampled⟩
      have last : n < 2147483647 := by
        simp only [maxNodeEventProjection] at bound
        omega
      have fits : FitsProjection channel
          (.message 0 (sampleMessage (n + 1))) := by
        intro frame _ verdict _ _
        rw [sampleMessage_checked sampled last] at verdict
        cases verdict
        exact sampleFrame_fits sampled bound
      refine ⟨_, .step reached ⟨rfl, fits⟩, ?_⟩
      rw [sampleMessage_step sampled last]
      exact sampled_next sampled bound

omit [IssueText] in
/-- A run over as many nodes as a pipeline may have stays contiguous. -/
theorem liveRunChannel_contiguous_full :
    letI : IssueText := ⟨fun _ => []⟩
    ∃ channel, Sampled maxNodeEventProjection channel ∧ Contiguous channel := by
  let : IssueText := ⟨fun _ => []⟩
  rcases sampled_reachable (Nat.le_refl maxNodeEventProjection) with
    ⟨channel, reached, sampled⟩
  exact ⟨channel, sampled, liveRunChannel_contiguous reached⟩

omit [IssueText] in
/-- One node more, and the stream has passed over a rejected frame. -/
theorem liveRunChannel_overflows :
    letI : IssueText := ⟨fun _ => []⟩
    ¬ ∀ channel, (liveRunSystem (js "run_1")).Reachable channel →
      Contiguous channel := by
  let : IssueText := ⟨fun _ => []⟩
  intro contiguous
  rcases sampled_reachable (Nat.le_refl maxNodeEventProjection) with
    ⟨channel, reached, sampled⟩
  have overflows := contiguous
    (channel.step (.message 0 (sampleMessage (maxNodeEventProjection + 1))))
    (.step reached.of_restrict rfl)
  have passed := sampled_overflow sampled
  rw [sampleMessage_step sampled (by decide)] at overflows
  exact absurd overflows.aligned (Nat.not_le_of_lt passed)

end Overflow

end ParityGrid.Web
