import ParityGrid.Adapters.Persistence.Repositories.ExecutionTables

/-!
# Runs, run revisions and events

A run moves along one lifecycle arrow, or only its revision advances; each
command appends one event at the frontier that it names.
-/

namespace ParityGrid.Adapters.Persistence

open ParityGrid.Foundation ParityGrid.Application
open ParityGrid.Domain (StateFingerprint)

section Runs

variable [CasefoldRuntime]

/-- `SqlAlchemyRunRepository.get` and the comparison of its revision. -/
def requireRun (tables : ExecutionTables) (expected : Int) :
    Except RepositoryError Unit := do
  validateRunChronology tables.run
  require (tables.run.rowVersion == expected)
    (.staleRowVersion "run row version is stale")

/-- `SqlAlchemyRunRevisionRepository.advance`. -/
def advanceRun (tables : ExecutionTables) (expected : Int) :
    Except RepositoryError ExecutionTables := do
  requireIncrementable expected "run row version"
  requireRun tables expected
  return { tables with run := { tables.run with rowVersion := expected + 1 } }

theorem advanceRun_eq_ok {tables after : ExecutionTables} {expected : Int} :
    advanceRun tables expected = .ok after ↔
      expected < maxConsistencySequence ∧
      validateRunChronology tables.run = .ok () ∧
      tables.run.rowVersion = expected ∧
      after =
        { tables with run := { tables.run with rowVersion := expected + 1 } } := by
  simp only [advanceRun, requireIncrementable, requireRun, check_bind_eq_ok,
    require_eq_ok, decide_eq_true_eq, beq_iff_eq, pure, Except.pure,
    Except.ok.injEq, eq_comm (b := after)]
  tauto

/-- The fingerprint that a transition stores. -/
def transitionFingerprint (target : Domain.RunState)
    (fingerprint : Option StateFingerprint) (version : Option Int) :
    Except RepositoryError Unit := do
  require (fingerprint.isNone == version.isNone)
    (.invalidRequest
      "execution-evidence fingerprint and version must be present together")
  if target = .succeeded ∨ target = .partiallySucceeded then do
    require fingerprint.isSome
      (.invalidRequest
        "successful run transition requires an execution-evidence fingerprint")
    require (version.any fun number => 1 ≤ number && number ≤ 2147483647)
      (.invalidRequest
        "execution-evidence fingerprint version is outside the supported range")
    require (version == some 2)
      (.invalidRequest
        "execution-evidence fingerprint version is unsupported")
  else
    require fingerprint.isNone
      (.invalidRequest
        "execution-evidence fingerprint is allowed for successful runs only")

/-- What `_transition_values` writes. -/
def transitionedRun (current : RunRecord) (target : Domain.RunState)
    (timestamp : Instant) (fingerprint : Option StateFingerprint)
    (version : Option Int) : RunRecord :=
  { current with
    state := target
    rowVersion := current.rowVersion + 1
    startedAt :=
      if current.state = .queued ∧ target = .running then some timestamp
      else current.startedAt
    cancellationRequestedAt :=
      if target = .cancelling ∨ (current.state = .queued ∧ target = .cancelled)
      then some timestamp else current.cancellationRequestedAt
    finishedAt :=
      if isTerminalRun target then some timestamp else current.finishedAt
    executionEvidenceFingerprint :=
      fingerprint.or current.executionEvidenceFingerprint
    executionEvidenceFingerprintVersion :=
      if fingerprint.isSome then version
      else current.executionEvidenceFingerprintVersion }

/-- The times of a run that a transition may not precede. -/
def transitionTimes (run : RunRecord) : List Instant :=
  [run.startedAt, run.cancellationRequestedAt, run.recoveryStartedAt,
    run.recoveredAt].filterMap id

/-- `SqlAlchemyRunRepository.transition`. -/
def transitionRun (tables : ExecutionTables) (expected : Int)
    (target : Domain.RunState) (timestamp : Instant)
    (fingerprint : Option StateFingerprint) (version : Option Int) :
    Except RepositoryError ExecutionTables := do
  requireRun tables expected
  require (canTransitionRun tables.run.state target) .invalidTransition
  transitionFingerprint target fingerprint version
  requireIncrementable expected "run row version"
  require (tables.run.createdAt ≤ timestamp)
    (.invalidRequest "run transition cannot precede creation")
  require
    ((transitionTimes tables.run).all fun time => time ≤ timestamp)
    (.invalidRequest "run transition time is not monotonic")
  let updated := transitionedRun tables.run target timestamp fingerprint version
  validateRunChronology updated
  return { tables with run := updated }

theorem transitionRun_eq_ok {tables after : ExecutionTables} {expected : Int}
    {target : Domain.RunState} {timestamp : Instant}
    {fingerprint : Option StateFingerprint} {version : Option Int} :
    transitionRun tables expected target timestamp fingerprint version =
        .ok after ↔
      validateRunChronology tables.run = .ok () ∧
      tables.run.rowVersion = expected ∧
      canTransitionRun tables.run.state target = true ∧
      transitionFingerprint target fingerprint version = .ok () ∧
      expected < maxConsistencySequence ∧
      tables.run.createdAt ≤ timestamp ∧
      (∀ time ∈ transitionTimes tables.run, time ≤ timestamp) ∧
      validateRunChronology
        (transitionedRun tables.run target timestamp fingerprint version) =
          .ok () ∧
      after =
        { tables with
          run := transitionedRun tables.run target timestamp fingerprint
            version } := by
  simp only [transitionRun, requireIncrementable, requireRun, check_bind_eq_ok,
    require_eq_ok, decide_eq_true_eq, beq_iff_eq, List.all_eq_true, pure,
    Except.pure, Except.ok.injEq, eq_comm (b := after)]
  tauto

/-! ## Events -/

/-- `_EVENT_KIND_PATTERN`: `[a-z][a-z0-9]*(?:_[a-z0-9]+)*`. -/
def eventKindPattern : SegmentPattern where
  first := isLower
  later := isLowerAlphanumeric
  body := isLowerAlphanumeric
  separator c := c == point '_'

/-- `_load_event_state`. -/
def requireEventState (tables : ExecutionTables) :
    Except RepositoryError Unit := do
  require (tables.counter.rowVersion ≤ tables.counter.nextSequence)
    (.consistency (.corruption "event counter row version is corrupt"))
  let count := tables.counter.nextSequence - 1
  require
    (decide (tables.events.map (fun event => event.sequence) =
      (List.range count.toNat).map fun index => (index : Int) + 1))
    (.consistency (.corruption (if count = 0
      then "event history exceeds its counter"
      else "event history is not contiguous")))

/-- `_encode_event`: the text of the payload, once every field is admitted. -/
def encodeEvent (tables : ExecutionTables) (event : PendingExecutionEvent) :
    Except ConsistencyError CanonicalStorageJson := do
  boundedText event.eventKind "event kind" 96
  require (eventKindPattern.fullmatch event.eventKind)
    (.invalidRequest "event kind must use canonical lowercase snake_case")
  require
    (match event.subject with
      | .run runId => runId == tables.run.runId
      | .workItem _ => true)
    (.invalidRequest "event subject does not belong to its run")
  match event.correlationId with
  | none => pure ()
  | some correlation => do
      let _ ← portableIdentity correlation "correlation identifier" 96
  let _ ← positiveInt event.payloadSchemaVersion "event payload schema version"
  let payload ← encodeRedactedDocument event.payload "event payload"
  require (tables.run.createdAt ≤ event.occurredAt)
    (.invalidRequest "event occurrence cannot precede its run")
  return payload

/-- `_validate_subjects`. -/
def validateSubject (tables : ExecutionTables) (event : PendingExecutionEvent) :
    Except ConsistencyError Unit :=
  require
    (match event.subject with
      | .run _ => true
      | .workItem workItemId => (tables.findWork workItemId).isSome)
    (.invalidRequest "event subject does not belong to its run")

/-- `_EncodedEvent.matches`. -/
def eventMatches (event : PendingExecutionEvent) (payload : CanonicalStorageJson)
    (stored : ExecutionEventRecord) : Bool :=
  stored.eventKind == event.eventKind &&
    stored.occurredAt == event.occurredAt && stored.subject == event.subject &&
    stored.correlationId == event.correlationId &&
    stored.payloadSchemaVersion == event.payloadSchemaVersion &&
    match encodeRedactedDocument stored.payload "stored event payload" with
    | .ok text => text.text == payload.text
    | .error _ => false

/-- `_replay_append`. -/
def replayAppendEvent (tables : ExecutionTables) (request : EventAppendRequest)
    (payload : CanonicalStorageJson) :
    Except RepositoryError (ExecutionTables × ExecutionEventBatch) := do
  require (tables.counter.rowVersion == request.expectedCounterRowVersion + 1)
    (.staleRowVersion "event append frontier is stale")
  match tables.events.filter fun event =>
      decide (request.expectedNextSequence ≤ event.sequence) with
  | [stored] => do
      require (stored.sequence == request.expectedNextSequence &&
          eventMatches request.event payload stored)
        (.stateConflict "event append conflicts with durable history")
      .ok (tables, ⟨[stored], tables.counter.nextSequence,
        tables.counter.rowVersion⟩)
  | _ => .error (.consistency (.corruption "event replay range is incomplete"))

/-- `_append_event`: one event at the frontier that the request names. -/
def appendEvent (tables : ExecutionTables) (request : EventAppendRequest) :
    Except RepositoryError (ExecutionTables × ExecutionEventBatch) := do
  requireIncrementable request.expectedCounterRowVersion
    "event counter row version"
  require (request.expectedNextSequence + 1 ≤ maxConsistencySequence)
    (.stateConflict
      "event sequence cannot advance beyond the supported maximum")
  requireEventState tables
  let payload ← (encodeEvent tables request.event).mapError .consistency
  (validateSubject tables request.event).mapError .consistency
  if tables.counter.nextSequence = request.expectedNextSequence + 1 then
    replayAppendEvent tables request payload
  else do
    require (tables.counter.rowVersion == request.expectedCounterRowVersion)
      (.staleRowVersion "event counter row version is stale")
    require (tables.counter.nextSequence == request.expectedNextSequence)
      (.stateConflict "event sequence frontier has changed")
    let stored ← (decodeRedactedDocument (some payload.text)
      "event payload").mapError .consistency
    let record :=
      { request.event.record tables.run.runId request.expectedNextSequence with
        payload := stored }
    let counter : EventCounterRecord :=
      ⟨request.expectedNextSequence + 1, request.expectedCounterRowVersion + 1⟩
    .ok
      ({ tables with counter := counter, events := tables.events ++ [record] },
        ⟨[record], counter.nextSequence, counter.rowVersion⟩)

/-- Either the event is new at the frontier, or the batch is already there. -/
theorem appendEvent_eq_ok {tables after : ExecutionTables}
    {request : EventAppendRequest} {batch : ExecutionEventBatch}
    (appended : appendEvent tables request = .ok (after, batch)) :
    (∃ stored,
      tables.counter = ⟨request.expectedNextSequence,
        request.expectedCounterRowVersion⟩ ∧
      batch = ⟨[{ request.event.record tables.run.runId
          request.expectedNextSequence with payload := stored }],
        request.expectedNextSequence + 1,
        request.expectedCounterRowVersion + 1⟩ ∧
      after = { tables with
        counter := ⟨request.expectedNextSequence + 1,
          request.expectedCounterRowVersion + 1⟩
        events := tables.events ++ batch.items }) ∨
    (tables.counter = ⟨request.expectedNextSequence + 1,
        request.expectedCounterRowVersion + 1⟩ ∧
      after = tables) := by
  simp only [appendEvent, bind_eq_ok, require_eq_ok, requireIncrementable]
    at appended
  obtain ⟨_, _, _, _, _, _, payload, _, _, _, rest⟩ := appended
  split at rest
  next replayed =>
    right
    simp only [replayAppendEvent, bind_eq_ok, require_eq_ok, beq_iff_eq]
      at rest
    obtain ⟨_, version, rest⟩ := rest
    split at rest
    next =>
      simp only [bind_eq_ok, Except.ok.injEq, Prod.mk.injEq] at rest
      obtain ⟨_, _, same, _⟩ := rest
      exact ⟨EventCounterRecord.ext replayed version, same.symm⟩
    next => cases rest
  next =>
    left
    simp only [bind_eq_ok, require_eq_ok, beq_iff_eq, Except.ok.injEq,
      Prod.mk.injEq] at rest
    obtain ⟨_, version, _, sequence, stored, _, rfl, rfl⟩ := rest
    exact ⟨stored, EventCounterRecord.ext sequence version, rfl, rfl⟩

end Runs

end ParityGrid.Adapters.Persistence
