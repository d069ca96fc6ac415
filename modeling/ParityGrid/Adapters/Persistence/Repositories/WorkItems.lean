import ParityGrid.Adapters.Persistence.Repositories.Runs

/-!
# Work items

A claim moves a pending item, or one whose retry is due, to running under a
lease; its holder renews or completes it while the lease lasts, and recovery
takes it back once the lease has expired.  Every move is a compare-and-set of
the item's row version.
-/

namespace ParityGrid.Adapters.Persistence

open ParityGrid.Foundation ParityGrid.Application
open ParityGrid.Domain (AttemptNumber Duration WorkItemId validateDuration
  validateSequenceNumber)

/-- `_duration_between`. -/
def durationBetween (startedAt finishedAt : Instant) :
    Except RepositoryError Duration :=
  match valid : validateDuration (finishedAt - startedAt) with
  | .ok () => .ok ⟨finishedAt - startedAt, valid⟩
  | .error _ =>
      .error (.invalidRequest
        "attempt duration is outside the supported range")

/-- `AttemptNumber(number)` of a number in range. -/
def attemptNumber (number : Int) : Except RepositoryError AttemptNumber :=
  match valid : validateSequenceNumber number with
  | .ok () => .ok ⟨⟨number, valid⟩⟩
  | .error _ =>
      .error (.stateConflict
        "attempt number cannot advance beyond the supported maximum")

theorem attemptNumber_eq_ok {number : Int} {attempt : AttemptNumber} :
    attemptNumber number = .ok attempt ↔ attempt.number = number := by
  constructor
  · intro numbered
    simp only [attemptNumber] at numbered
    split at numbered
    next => cases numbered; rfl
    next => cases numbered
  · rintro rfl
    simp only [attemptNumber]
    split
    next => rfl
    next invalid =>
      rw [attempt.valid] at invalid
      cases invalid

section Checks

variable [CasefoldRuntime]

/-- An error of a shared check, as the execution repositories raise it. -/
def executionError : ConsistencyError → RepositoryError
  | .invalidRequest message => .invalidRequest message
  | .corruption message => .corruption message
  | error => .consistency error

/-- `optional_text`. -/
def optionalText (value : Option Text) (subject : String) (maximum : Nat) :
    Except RepositoryError Unit :=
  match value with
  | none => .ok ()
  | some value => (boundedText value subject maximum).mapError executionError

/-- `nonnegative_int`. -/
def nonnegativeInt (value : Int) (subject : String) :
    Except RepositoryError Unit :=
  require (0 ≤ value && value ≤ 9223372036854775807)
    (.invalidRequest (subject ++
      " must be a nonnegative integer within the supported range"))

/-- What reading a document back gives after it was stored. -/
def storeDocument (document : ConfigurationDocument) (subject : String) :
    Except ConsistencyError ConfigurationDocument := do
  let encoded ← encodeMapping document.toMapping subject
  let fields ← decodeMapping (some encoded.text) subject
  (ConfigurationDocument.fromMapping fields).mapError fun error =>
    if error.isTypeOrValueError then .corruption (subject ++ " is corrupt")
    else .runtime error

/-- `storeDocument` of a document that may be missing. -/
def storeOptionalDocument (document : Option ConfigurationDocument)
    (subject : String) :
    Except ConsistencyError (Option ConfigurationDocument) :=
  match document with
  | none => .ok none
  | some document => some <$> storeDocument document subject

end Checks

section WorkItems

variable [CasefoldRuntime]

/-- `_verify_work_records` of one work item. -/
def verifyWork (tables : ExecutionTables) (work : WorkItemRecord) :
    Except RepositoryError Unit := do
  match tables.findHead work.nodeId work.partitionKey with
  | none =>
      .error (.corruption "work-item checkpoint heads are incomplete")
  | some head => do
      require (work.createdAt ≤ head.updatedAt)
        (.corruption "checkpoint update time is corrupt")
      require (head.currentVersion == work.expectedCheckpointVersion)
        (.corruption "work-item checkpoint version is inconsistent")
  let numbers := sorted ((tables.attemptsOfItem work.workItemId).map
    fun attempt => attempt.attemptNumber.number)
  require
    (decide (numbers = (List.range work.completedAttemptCount.toNat).map
      fun index => (index : Int) + 1))
    (.corruption (if numbers.isEmpty
      then "work-item attempt history is corrupt"
      else "work-item attempt history is not contiguous"))

/-- `get`: the row, once it is coherent and verified. -/
def getWork (tables : ExecutionTables) (workItemId : WorkItemId) :
    Except RepositoryError (Option WorkItemRecord) :=
  match tables.findWork workItemId with
  | none => .ok none
  | some work => do
      validateWorkItemCoherence work
      verifyWork tables work
      return some work

/-- `_require_work`. -/
def requireWork (tables : ExecutionTables) (workItemId : WorkItemId)
    (expected : Int) : Except RepositoryError WorkItemRecord := do
  match ← getWork tables workItemId with
  | none => .error (.recordNotFound "work item does not exist")
  | some work => do
      require (work.rowVersion == expected)
        (.staleRowVersion "work-item row version is stale")
      return work

theorem getWork_eq_some {tables : ExecutionTables} {workItemId : WorkItemId}
    {work : WorkItemRecord} :
    getWork tables workItemId = .ok (some work) ↔
      tables.findWork workItemId = some work ∧
      validateWorkItemCoherence work = .ok () ∧
      verifyWork tables work = .ok () := by
  simp only [getWork]
  cases found : tables.findWork workItemId with
  | none => simp
  | some row =>
      simp only [check_bind_eq_ok, pure, Except.pure, Except.ok.injEq,
        Option.some.injEq]
      constructor
      · rintro ⟨coherent, verified, rfl⟩
        exact ⟨rfl, coherent, verified⟩
      · rintro ⟨rfl, coherent, verified⟩
        exact ⟨coherent, verified, rfl⟩

theorem requireWork_eq_ok {tables : ExecutionTables} {workItemId : WorkItemId}
    {expected : Int} {work : WorkItemRecord} :
    requireWork tables workItemId expected = .ok work ↔
      tables.findWork workItemId = some work ∧
      validateWorkItemCoherence work = .ok () ∧
      verifyWork tables work = .ok () ∧
      work.rowVersion = expected := by
  rw [requireWork, bind_eq_ok]
  constructor
  · rintro ⟨read, reads, rest⟩
    cases read with
    | none => cases rest
    | some row =>
        simp only [check_bind_eq_ok, require_eq_ok, beq_iff_eq, pure,
          Except.pure, Except.ok.injEq] at rest
        obtain ⟨version, rfl⟩ := rest
        obtain ⟨found, coherent, verified⟩ := getWork_eq_some.mp reads
        exact ⟨found, coherent, verified, version⟩
  · rintro ⟨found, coherent, verified, version⟩
    refine ⟨some work, getWork_eq_some.mpr ⟨found, coherent, verified⟩, ?_⟩
    simp only [check_bind_eq_ok, require_eq_ok, beq_iff_eq, pure, Except.pure,
      version, and_self]

/-- A row as it is read back: coherent, and verified where it now stands. -/
def readBack (tables : ExecutionTables) (work : WorkItemRecord) :
    Except RepositoryError Unit := do
  validateWorkItemCoherence work
  verifyWork tables work

/-- `_claim_from_record`, of a row that is running. -/
def claimFromRecord (work : WorkItemRecord) :
    Except RepositoryError WorkClaim :=
  match work.leaseOwner, work.leaseExpiresAt, work.activeAttemptNumber,
      work.activeAttemptStartedAt, work.activeRunnerKind,
      work.activeWorkerIdentity with
  | some owner, some expires, some attempt, some started, some kind,
      some worker => do
      require (work.state == .running)
        (.corruption "work-item claim is not durable")
      return {
        workItemId := work.workItemId
        attemptNumber := attempt
        leaseOwner := owner
        rowVersion := work.rowVersion
        startedAt := started
        leaseExpiresAt := expires
        runnerKind := kind
        workerIdentity := worker }
  | _, _, _, _, _, _ => .error (.corruption "work-item claim is not durable")

/-- What `claim` asks for. -/
structure ClaimRequest where
  leaseOwner : Text
  startedAt : Instant
  leaseExpiresAt : Instant
  runnerKind : Text
  workerIdentity : Text

/-- The row that a claim writes. -/
def claimedWork (current : WorkItemRecord) (request : ClaimRequest)
    (attempt : AttemptNumber) : WorkItemRecord :=
  { current with
    state := .running
    rowVersion := current.rowVersion + 1
    retryAvailableAt := none
    leaseOwner := some request.leaseOwner
    leaseExpiresAt := some request.leaseExpiresAt
    activeAttemptNumber := some attempt
    activeAttemptStartedAt := some request.startedAt
    activeRunnerKind := some request.runnerKind
    activeWorkerIdentity := some request.workerIdentity
    updatedAt := request.startedAt }

/-- `SqlAlchemyWorkItemRepository.claim`. -/
def claimWork (tables : ExecutionTables) (workItemId : WorkItemId)
    (expected : Int) (request : ClaimRequest) :
    Except RepositoryError (ExecutionTables × WorkClaim) := do
  optionalText (some request.leaseOwner) "lease owner" 128
  optionalText (some request.runnerKind) "runner kind" 32
  optionalText (some request.workerIdentity) "worker identity" 128
  let current ← requireWork tables workItemId expected
  require (current.state == .pending || current.state == .retryWait)
    (.stateConflict "work item is not claimable")
  require (tables.run.state == .running)
    (.stateConflict "run state does not permit work claims")
  require
    (current.retryAvailableAt.all fun retry => retry ≤ request.startedAt)
    (.stateConflict "work item retry is not available")
  require (current.updatedAt ≤ request.startedAt)
    (.invalidRequest "attempt start time is not monotonic")
  require (request.startedAt < request.leaseExpiresAt)
    (.invalidRequest "lease expiry must follow attempt start")
  requireIncrementable expected "work-item row version"
  requireIncrementable current.completedAttemptCount "attempt number"
  let attempt ← attemptNumber (current.completedAttemptCount + 1)
  let claimed := claimedWork current request attempt
  let after := tables.setWork claimed
  readBack after claimed
  let claim ← claimFromRecord claimed
  .ok (after, claim)

/-- `_claim_matches`. -/
def claimMatches (work : WorkItemRecord) (claim : WorkClaim) : Bool :=
  work.workItemId == claim.workItemId &&
    work.activeAttemptNumber == some claim.attemptNumber &&
    work.leaseOwner == some claim.leaseOwner &&
    work.rowVersion == claim.rowVersion &&
    work.activeAttemptStartedAt == some claim.startedAt &&
    work.leaseExpiresAt == some claim.leaseExpiresAt &&
    work.activeRunnerKind == some claim.runnerKind &&
    work.activeWorkerIdentity == some claim.workerIdentity

/-- `_require_claim`. -/
def requireClaim (tables : ExecutionTables) (claim : WorkClaim)
    (observedAt : Instant) : Except RepositoryError WorkItemRecord := do
  let current ← requireWork tables claim.workItemId claim.rowVersion
  require (current.state == .running)
    (.leaseLost "work claim is no longer active")
  require (claimMatches current claim)
    (.leaseLost "work claim does not match the active lease")
  require (current.updatedAt ≤ observedAt)
    (.invalidRequest "claim observation time is not monotonic")
  require (observedAt < claim.leaseExpiresAt)
    (.leaseLost "work claim has expired")
  return current

/-- `SqlAlchemyWorkItemRepository.renew_claim`. -/
def renewClaim (tables : ExecutionTables) (claim : WorkClaim)
    (renewedAt leaseExpiresAt : Instant) :
    Except RepositoryError (ExecutionTables × WorkClaim) := do
  let current ← requireClaim tables claim renewedAt
  require (current.updatedAt < renewedAt)
    (.invalidRequest "lease renewal time must advance work-item time")
  require (claim.leaseExpiresAt < leaseExpiresAt)
    (.invalidRequest "renewed lease must extend the current expiry")
  requireIncrementable current.rowVersion "work-item row version"
  let renewed :=
    { current with
      leaseExpiresAt := some leaseExpiresAt
      updatedAt := renewedAt
      rowVersion := current.rowVersion + 1 }
  let after := tables.setWork renewed
  readBack after renewed
  let claim ← claimFromRecord renewed
  .ok (after, claim)

/-- The row that ends an attempt, whichever way. -/
def releasedWork (current : WorkItemRecord) (target : Domain.WorkItemState)
    (retryAvailableAt : Option Instant) (finishedAt : Instant) :
    WorkItemRecord :=
  { current with
    state := target
    rowVersion := current.rowVersion + 1
    completedAttemptCount := current.completedAttemptCount + 1
    retryAvailableAt := retryAvailableAt
    leaseOwner := none
    leaseExpiresAt := none
    activeAttemptNumber := none
    activeAttemptStartedAt := none
    activeRunnerKind := none
    activeWorkerIdentity := none
    updatedAt := finishedAt }

/-- `_TARGET_OUTCOMES`. -/
def targetOutcome : Domain.WorkItemState → Option AttemptOutcome
  | .succeeded => some .succeeded
  | .retryWait => some .retryScheduled
  | .quarantined => some .quarantined
  | .failed => some .failed
  | .cancelled => some .cancelled
  | _ => none

/-- `_validate_completion_classification`. -/
def validateCompletionClassification (outcome : AttemptOutcome)
    (completion : WorkCompletion) : Except RepositoryError Unit :=
  if outcome = .succeeded then
    require completion.failureClassification.isNone
      (.invalidRequest "successful attempt cannot have a failure class")
  else
    require completion.failureClassification.isSome
      (.invalidRequest "non-successful attempt requires a failure class")

/-- `_validate_retry_time`. -/
def validateRetryTime (completion : WorkCompletion) :
    Except RepositoryError Unit :=
  match completion.targetState, completion.retryAvailableAt with
  | .retryWait, none =>
      .error (.invalidRequest "retry completion requires an availability time")
  | .retryWait, some retry =>
      require (completion.finishedAt ≤ retry)
        (.invalidRequest "retry availability cannot precede completion")
  | _, none => .ok ()
  | _, some _ =>
      .error (.invalidRequest
        "retry availability is allowed for retry state only")

/-- The row that `_insert_attempt` writes for a running item. -/
def attemptRecord (current : WorkItemRecord) (attempt : AttemptNumber)
    (startedAt : Instant) (runnerKind workerIdentity : Text)
    (outcome : AttemptOutcome)
    (classification : Option Domain.FailureClassification)
    (detail : Option Text) (reference : Option ConfigurationDocument)
    (recordsProcessed bytesProcessed : Int) (finishedAt : Instant)
    (duration : Duration) : WorkAttemptRecord where
  workItemId := current.workItemId
  attemptNumber := attempt
  startedAt := startedAt
  finishedAt := finishedAt
  runnerKind := runnerKind
  workerIdentity := workerIdentity
  outcome := outcome
  failureClassification := classification
  redactedDetail := detail
  resultReference := reference
  recordsProcessed := recordsProcessed
  bytesProcessed := bytesProcessed
  duration := duration

/-- `SqlAlchemyWorkItemRepository.complete_claim`. -/
def completeClaim (tables : ExecutionTables) (claim : WorkClaim)
    (completion : WorkCompletion) :
    Except RepositoryError (ExecutionTables × CompletedWork) := do
  let current ← requireClaim tables claim completion.finishedAt
  match targetOutcome completion.targetState with
  | none => .error (.invalidRequest "completion target is not durable")
  | some outcome => do
      validateCompletionClassification outcome completion
      validateRetryTime completion
      optionalText completion.redactedDetail "redacted attempt detail" 4096
      let reference ← (storeOptionalDocument completion.resultReference
        "attempt result reference").mapError executionError
      nonnegativeInt completion.recordsProcessed "records processed"
      nonnegativeInt completion.bytesProcessed "bytes processed"
      let duration ← durationBetween claim.startedAt completion.finishedAt
      requireIncrementable current.rowVersion "work-item row version"
      let work := releasedWork current completion.targetState
        completion.retryAvailableAt completion.finishedAt
      let attempt := attemptRecord current claim.attemptNumber claim.startedAt
        claim.runnerKind claim.workerIdentity outcome
        completion.failureClassification completion.redactedDetail reference
        completion.recordsProcessed completion.bytesProcessed
        completion.finishedAt duration
      let after :=
        { tables.setWork work with attempts := tables.attempts ++ [attempt] }
      readBack after work
      .ok (after, { workItem := work, attempt := attempt })

/-- `SqlAlchemyWorkItemRepository.recover_expired_claim`. -/
def recoverExpiredClaim (tables : ExecutionTables) (workItemId : WorkItemId)
    (expected : Int) (expectedAttempt : AttemptNumber)
    (observedAt retryAvailableAt : Instant) (detail : Option Text) :
    Except RepositoryError (ExecutionTables × CompletedWork) := do
  optionalText detail "redacted attempt detail" 4096
  let current ← requireWork tables workItemId expected
  require (current.state == .running)
    (.stateConflict "work item has no active lease to recover")
  let claim ← claimFromRecord current
  require (claim.attemptNumber == expectedAttempt)
    (.leaseLost "active attempt does not match recovery request")
  require (claim.leaseExpiresAt ≤ observedAt)
    (.stateConflict "work-item lease has not expired")
  require (observedAt ≤ retryAvailableAt)
    (.invalidRequest "retry availability cannot precede recovery")
  requireIncrementable current.rowVersion "work-item row version"
  let duration ← durationBetween claim.startedAt observedAt
  let work := releasedWork current .retryWait (some retryAvailableAt) observedAt
  let attempt := attemptRecord current claim.attemptNumber claim.startedAt
    claim.runnerKind claim.workerIdentity .leaseExpired (some .timeout) detail
    none 0 0 observedAt duration
  let after :=
    { tables.setWork work with attempts := tables.attempts ++ [attempt] }
  readBack after work
  .ok (after, { workItem := work, attempt := attempt })

end WorkItems

end ParityGrid.Adapters.Persistence
