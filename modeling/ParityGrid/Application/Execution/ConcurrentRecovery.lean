import ParityGrid.Application.Execution.ClockPolicy
import ParityGrid.Application.Execution.SchedulerProgress
import ParityGrid.Application.Execution.FrontierMapping
import ParityGrid.Domain.Pipeline

/-!
# Concurrent recovery

Recovery reads durable evidence, resolves the claims that have expired through
the writer, reads the evidence again and rebuilds the scheduler frontier from
it.  The reader, the clock and the writer are borrowed: each answers or raises
as it will.
-/

namespace ParityGrid.Domain

open Application Foundation

/-- `_RECOVERY_RUN_STATES`. -/
def RunState.isRecoverable : RunState → Bool
  | .running | .pausing | .paused | .resuming | .cancelling => true
  | _ => false

def workItemStates : List WorkItemState :=
  [.pending, .leased, .running, .succeeded, .retryWait, .quarantined,
    .failed, .cancelled]

/-- `WorkItemState(value)`. -/
def WorkItemState.parse (value : Text) : Option WorkItemState :=
  workItemStates.find? fun state => text state.value = value

/-- `_WORK_STATE_MAP`, which has no entry for a leased item. -/
def WorkItemState.frontierState : WorkItemState → Option FrontierWorkState
  | .pending => some .blocked
  | .leased => none
  | .running => some .admitted
  | .retryWait => some .retryWait
  | .succeeded => some .succeeded
  | .quarantined => some .quarantined
  | .failed => some .failed
  | .cancelled => some .cancelled

end ParityGrid.Domain

namespace ParityGrid.Application

open ParityGrid.Foundation
open Domain (RunState WorkItemState)

/-! ## Durable evidence -/

/-- The failures of recovery; `raised` is any other exception. -/
inductive RecoveryError where
  | invalidRequest (message : String)
  | stateRead (message : String)
  | ambiguous (message : String)
  | nonExpiredLease (message : String)
  | outcomeUnknown (message : String)
  | scheduler (failure : SchedulerError)
  | raised
deriving DecidableEq

/-- A counter of the store: `lower` to 2³¹ − 1. -/
def isCounter (lower value : Int) : Bool :=
  lower ≤ value && value ≤ 2147483647

/-- Durable facts for one work item as recovery read them. -/
structure RecoveryWorkEvidence where
  nodeId : Text
  partitionKey : Text
  workItemId : Text
  state : Text
  rowVersion : Int
  completedAttemptCount : Int
  leaseOwner : Option Text
  leaseExpiresAtMicros : Option Int
  retryAvailableAtMicros : Option Int
  activeAttemptNumber : Option Int
  named : [nodeId, partitionKey, workItemId].all fun name =>
    1 ≤ name.length && name.length ≤ 128
  versioned : isCounter 1 rowVersion
  counted : isCounter 0 completedAttemptCount
  expires : leaseExpiresAtMicros.all (0 ≤ ·)
  available : retryAvailableAtMicros.all (0 ≤ ·)
  attempted : activeAttemptNumber.all (isCounter 1)
deriving DecidableEq

/-- The key of `item_by_key`. -/
def RecoveryWorkEvidence.key (item : RecoveryWorkEvidence) : Text × Text :=
  (item.nodeId, item.partitionKey)

/-- What recovery reads of a run. -/
structure RunEvidence where
  runId : Text
  state : RunState
  rowVersion : Int
deriving DecidableEq

/-- One durable snapshot for a concurrent run; a node is its identity and its
row version. -/
structure ConcurrentRecoveryEvidence where
  run : RunEvidence
  nodes : List (Text × Int)
  work : List RecoveryWorkEvidence
  nextEventSequence : Int
  eventCounterRowVersion : Int
  inProgressIdempotency : Nat
  integrityIssueCount : Nat
  bounded : work.length ≤ maxFrontierWorkItems
deriving DecidableEq

/-! ## Requests and ports -/

/-- `NonExpiredLeasePolicy`. -/
inductive NonExpiredLeasePolicy where
  | waitForExpiry
  | remainRecoveryRequired
deriving DecidableEq

/-- The arguments of `recover`. -/
structure RecoveryRequest where
  runId : Text
  planFingerprint : Text
  nodeOrder : List Text
  edges : List (Text × Text)
  partitionsByNode : List (Text × List Text)
  controlGeneration : Int
  nonExpiredPolicy : NonExpiredLeasePolicy
  retryDelayMicros : Int

/-- `partitions_by_node[node]`. -/
def RecoveryRequest.partitionsOf (request : RecoveryRequest) (node : Text) :
    List Text :=
  (request.partitionsByNode.lookup node).getD []

/-- `_MAX_RECOVERY_MICROS`. -/
def maxRecoveryMicros : Int := 86400000000

/-- Classified lease evidence for one in-flight work item. -/
structure LeasedWorkClassification where
  identity : WorkIdentity
  workItemId : Text
  rowVersion : Int
  attemptNumber : Int
  leaseOwner : Text
  expiresAtMicros : Int
deriving DecidableEq

/-- The writer command that resolves one expired claim; its event is appended
at the expected position. -/
structure RecoverExpiredWork where
  runId : Text
  nodeId : Text
  workItemId : Text
  expectedWorkRowVersion : Int
  expectedAttemptNumber : Int
  observedAt : Instant
  retryAvailableAt : Instant
  expectedNodeRowVersion : Int
  expectedRunRowVersion : Int
  expectedNextSequence : Int
  expectedCounterRowVersion : Int

structure RecoverExpiredWorkResult where
  nodeRowVersion : Int
  runRowVersion : Int
  nextSequence : Int
  counterRowVersion : Int
  positive : isCounter 1 nextSequence

/-- A receipt; its result may be of another command. -/
structure RecoveryReceipt where
  submissionId : Text
  result : Option RecoverExpiredWorkResult

/-- The clock answers its readings in turn, the reader its reads.  A port may
raise a recovery error, or (`none`) any other exception. -/
structure RecoveryPorts where
  clock : Nat → Except RecoveryError Instant
  read : Nat → Except (Option RecoveryError) ConcurrentRecoveryEvidence
  submit : RecoverExpiredWork → Except (Option RecoveryError) RecoveryReceipt

/-- `except ConcurrentRecoveryError: raise; except Exception: raise other`. -/
def passRecoveryErrors {α : Type} (answer : Except (Option RecoveryError) α)
    (other : RecoveryError) : Except RecoveryError α :=
  answer.mapError fun failure => failure.getD other

def liftScheduler {α : Type} (answer : Except SchedulerError α) :
    Except RecoveryError α :=
  answer.mapError .scheduler

/-- `d[key]`, which raises when the key is absent. -/
def subscript {κ β : Type} [BEq κ] (d : List (κ × β)) (key : κ) :
    Except RecoveryError β :=
  match d.lookup key with
  | some value => .ok value
  | none => .error .raised

/-! ## Classifying leases -/

structure LeaseClasses where
  expired : List LeasedWorkClassification
  nonExpired : List LeasedWorkClassification
  ambiguity : Option String

/-- One turn of `_classify_leases`. -/
def classifyItem (runId : Text) (nowMicros : Int) (classes : LeaseClasses)
    (item : RecoveryWorkEvidence) : Except RecoveryError LeaseClasses :=
  if item.state ≠ text WorkItemState.running.value then
    .ok classes
  else
    match item.leaseOwner, item.leaseExpiresAtMicros,
        item.activeAttemptNumber with
    | some owner, some expiresAt, some attempt => do
        let identity ← liftScheduler
          (WorkIdentity.create runId item.nodeId item.partitionKey)
        let classification : LeasedWorkClassification := {
          identity
          workItemId := item.workItemId
          rowVersion := item.rowVersion
          attemptNumber := attempt
          leaseOwner := owner
          expiresAtMicros := expiresAt }
        if expiresAt ≤ nowMicros then
          return { classes with
            expired := classes.expired ++ [classification] }
        else
          return { classes with
            nonExpired := classes.nonExpired ++ [classification] }
    | _, _, _ => .ok { classes with
        ambiguity := classes.ambiguity.or
          (some "running work without complete lease evidence") }

/-- The findings that make any evidence ambiguous. -/
def initialAmbiguity (evidence : ConcurrentRecoveryEvidence) :
    Option String :=
  if 0 < evidence.integrityIssueCount then
    some "artifact integrity findings"
  else if 0 < evidence.inProgressIdempotency then
    some "in-progress idempotency reservations"
  else
    none

/-- `_classify_leases`; the evidence is ambiguous when there is a reason. -/
def classifyLeases (evidence : ConcurrentRecoveryEvidence)
    (nowMicros : Int) : Except RecoveryError LeaseClasses := do
  let classes ← evidence.work.foldlM
    (classifyItem evidence.run.runId nowMicros)
    ⟨[], [], initialAmbiguity evidence⟩
  return { classes with
    expired := sortedBy (fun leased => leased.identity.sortKey)
      classes.expired
    nonExpired := sortedBy (fun leased => leased.identity.sortKey)
      classes.nonExpired }

/-! ## Checking the request against the evidence -/

/-- `_require_topology`. -/
def requireTopology (request : RecoveryRequest) : Except RecoveryError Unit := do
  require (request.nodeOrder ≠ [])
    (.invalidRequest "recovery node order is invalid")
  require (decide request.nodeOrder.Nodup)
    (.invalidRequest "recovery nodes must be unique")
  request.nodeOrder.forM fun node =>
    require (request.partitionsOf node ≠ [])
      (.invalidRequest "recovery partitions must cover every node")

/-- The keys of the plan, in the order in which a frontier is rebuilt. -/
def RecoveryRequest.keys (request : RecoveryRequest) : List (Text × Text) :=
  request.nodeOrder.flatMap fun node =>
    (sorted (request.partitionsOf node)).map fun partition => (node, partition)

/-- `_require_evidence_covers_plan`. -/
def requireEvidenceCoversPlan (request : RecoveryRequest)
    (evidence : ConcurrentRecoveryEvidence) : Except RecoveryError Unit := do
  require (evidence.run.runId = request.runId) (.invalidRequest
    "recovery evidence run does not match the request")
  require
    ((evidence.work.all fun item => item.key ∈ request.keys) &&
      request.keys.all fun key =>
        key ∈ evidence.work.map RecoveryWorkEvidence.key)
    (.invalidRequest
      "durable work evidence does not exactly cover the plan partitions")

/-! ## Rebuilding the frontier -/

/-- `_state_value`. -/
def stateValue (value : Text) : Except RecoveryError WorkItemState :=
  match WorkItemState.parse value with
  | some state => .ok state
  | none => .error
      (.stateRead "durable work state is not a known work item state")

abbrev ItemByKey := List ((Text × Text) × RecoveryWorkEvidence)

def itemByKey (evidence : ConcurrentRecoveryEvidence) : ItemByKey :=
  dictOf (evidence.work.map fun item => (item.key, item))

/-- `_node_all_succeeded`. -/
def nodeAllSucceeded (items : ItemByKey) (node : Text) : Bool :=
  (items.filter fun entry => entry.1.1 = node).all fun entry =>
    entry.2.state = text WorkItemState.succeeded.value

/-- `_node_admission_states`. -/
def nodeAdmissionState (edges : List (Text × Text)) (items : ItemByKey)
    (node : Text) : Bool :=
  (predecessorsOf edges node).all (nodeAllSucceeded items)

/-- What is rebuilt for one work item. -/
structure RebuiltItem where
  identity : WorkIdentity
  state : FrontierWorkState
  fence : Option Int
  wait : Option FrontierRetryWait

/-- `_WORK_STATE_MAP[state]`. -/
def mappedState (state : WorkItemState) :
    Except RecoveryError FrontierWorkState :=
  match state.frontierState with
  | some mapped => .ok mapped
  | none => .error .raised

/-- The wait of an item that is to be retried. -/
def rebuildWait (identity : WorkIdentity) (item : RecoveryWorkEvidence)
    (state : FrontierWorkState) :
    Except RecoveryError (Option FrontierRetryWait) :=
  if state = .retryWait then
    (liftScheduler (FrontierRetryWait.create identity
      (item.retryAvailableAtMicros.getD 0)
      (text "recovery_retry_wait"))).map some
  else
    .ok none

/-- One turn of `_rebuild_frontier`. -/
def rebuildItem (request : RecoveryRequest) (items : ItemByKey)
    (key : Text × Text) : Except RecoveryError RebuiltItem := do
  let item ← subscript items key
  let identity ← liftScheduler (WorkIdentity.create request.runId key.1 key.2)
  let durable ← stateValue item.state
  let mapped ← mappedState durable
  let state := if durable = .pending &&
      !nodeAdmissionState request.edges items key.1 then
    .blocked
  else
    mapped
  let wait ← rebuildWait identity item state
  return {
    identity
    state
    fence := if state = .admitted then some item.rowVersion else none
    wait }

/-- The control state of a recovered run. -/
def recoveredControl (runState : RunState) (ambiguity : Option Text) :
    ContractLifecycleState :=
  if ambiguity.isSome then
    .recoveryRequired
  else
    match runState with
    | .paused => .paused
    | .cancelling => .cancelling
    | _ => .running

/-- `ControlGeneration(value)`. -/
def recoveredGeneration (value : Int) :
    Except RecoveryError ControlGeneration :=
  if bounds : 1 ≤ value ∧ value ≤ 2147483647 then
    .ok ⟨value, bounds⟩
  else
    .error .raised

/-- `_rebuild_frontier`. -/
def rebuildFrontier (request : RecoveryRequest)
    (evidence : ConcurrentRecoveryEvidence) (ambiguity : Option Text) :
    Except RecoveryError SchedulerFrontierV2 := do
  let rows ← request.keys.mapM (rebuildItem request (itemByKey evidence))
  let controlGeneration ← recoveredGeneration request.controlGeneration
  liftScheduler (SchedulerFrontierV2.create {
    version := schedulerFrontierVersion
    planFingerprint := request.planFingerprint
    controlGeneration
    runId := request.runId
    nodeOrder := request.nodeOrder
    edges := sortedBy toLex request.edges
    workStates := sortedBy (fun entry => entry.1.sortKey)
      (dictOf (rows.map fun row => (row.identity, row.state)))
    leaseFences := sortedBy (fun entry => entry.1.sortKey)
      (dictOf (rows.filterMap fun row =>
        row.fence.map fun fence => (row.identity, fence)))
    retryWaits := sortedBy (fun wait => wait.identity.sortKey)
      (rows.filterMap RebuiltItem.wait)
    controlState := recoveredControl evidence.run.state ambiguity
    recoveryRequiredReason := ambiguity })

/-! ## Recovering -/

/-- `_from_micros`. -/
def fromMicros (value : Int) : Except RecoveryError Instant :=
  if minInstant ≤ value ∧ value ≤ maxInstant then .ok value
  else .error .raised

/-- The row versions and the event position that commands expect. -/
structure ExpectedVersions where
  nodes : List (Text × Int)
  run : Int
  sequence : Int
  counter : Int

/-- `_resolve_expired`. -/
def resolveExpired (ports : RecoveryPorts) (request : RecoveryRequest)
    (leased : LeasedWorkClassification) (reading : Nat)
    (expected : ExpectedVersions) :
    Except RecoveryError (ExpectedVersions × Text) := do
  let observedAt ← ports.clock reading
  let retryAvailableAt ← fromMicros (observedAt + request.retryDelayMicros)
  let nodeRowVersion ← subscript expected.nodes leased.identity.nodeId
  require (isCounter 1 expected.sequence) .raised
  let receipt ← passRecoveryErrors
    (ports.submit {
      runId := leased.identity.runId
      nodeId := leased.identity.nodeId
      workItemId := leased.workItemId
      expectedWorkRowVersion := leased.rowVersion
      expectedAttemptNumber := leased.attemptNumber
      observedAt
      retryAvailableAt
      expectedNodeRowVersion := nodeRowVersion
      expectedRunRowVersion := expected.run
      expectedNextSequence := expected.sequence
      expectedCounterRowVersion := expected.counter })
    (.outcomeUnknown "recovery writer outcome is unknown")
  match receipt.result with
  | none => .error (.outcomeUnknown
      "recovery writer receipt is not a recovery result")
  | some result => .ok ({
      nodes := alter leased.identity.nodeId
        (fun _ => result.nodeRowVersion) expected.nodes
      run := result.runRowVersion
      sequence := result.nextSequence
      counter := result.counterRowVersion }, receipt.submissionId)

/-- The loop over the expired leases; the identities of the submissions. -/
def resolveAll (ports : RecoveryPorts) (request : RecoveryRequest) :
    List LeasedWorkClassification → Nat → ExpectedVersions →
      Except RecoveryError (List Text)
  | [], _, _ => .ok []
  | leased :: rest, reading, expected => do
      let resolved ← resolveExpired ports request leased reading expected
      let later ← resolveAll ports request rest (reading + 1) resolved.1
      return resolved.2 :: later

/-- `_read_evidence`. -/
def readEvidence (ports : RecoveryPorts) (request : RecoveryRequest)
    (turn : Nat) : Except RecoveryError ConcurrentRecoveryEvidence := do
  require (request.runId ≠ [])
    (.invalidRequest "recovery run identity is invalid")
  passRecoveryErrors (ports.read turn)
    (.stateRead "durable recovery evidence could not be read")

/-- Read-only classification of one concurrent run's durable state. -/
structure ConcurrentRecoveryScan where
  runId : Text
  planFingerprint : Text
  runState : RunState
  expiredLeases : List LeasedWorkClassification
  nonExpiredLeases : List LeasedWorkClassification
  ambiguityReason : Option String
  ownerToken : Nat

/-- Outcome of one exclusive recovery pass. -/
structure ConcurrentRecoveryReport where
  scan : ConcurrentRecoveryScan
  recoveredWork : List WorkIdentity
  frontier : SchedulerFrontierV2
  submissionIds : List Text

/-- `recover`, on a service that has issued some ownership tokens. -/
def recover (ports : RecoveryPorts) (request : RecoveryRequest)
    (ownerCounter : Nat) : Except RecoveryError ConcurrentRecoveryReport := do
  require (isCounter 1 request.controlGeneration)
    (.invalidRequest "recovery control generation is invalid")
  require (0 ≤ request.retryDelayMicros &&
      request.retryDelayMicros ≤ maxRecoveryMicros)
    (.invalidRequest "recovery retry delay is invalid")
  requireTopology request
  let evidence ← readEvidence ports request 0
  requireEvidenceCoversPlan request evidence
  require evidence.run.state.isRecoverable
    (.invalidRequest "recovery requires an active or paused run")
  let nowMicros ← ports.clock 0
  let classes ← classifyLeases evidence nowMicros
  match classes.ambiguity with
  | some reason => .error (.ambiguous
      ("durable recovery evidence is ambiguous: " ++ reason))
  | none => do
      require (classes.nonExpired.isEmpty ||
          request.nonExpiredPolicy ≠ .remainRecoveryRequired)
        (.nonExpiredLease
          "non-expired leases stay recovery-required under the durable policy")
      let submissionIds ← resolveAll ports request classes.expired 1 {
        nodes := evidence.nodes
        run := evidence.run.rowVersion
        sequence := evidence.nextEventSequence
        counter := evidence.eventCounterRowVersion }
      let final ← readEvidence ports request 1
      requireEvidenceCoversPlan request final
      let frontier ← rebuildFrontier request final none
      return {
        scan := {
          runId := request.runId
          planFingerprint := request.planFingerprint
          runState := final.run.state
          expiredLeases := classes.expired
          nonExpiredLeases := []
          ambiguityReason := none
          ownerToken := ownerCounter + 1 }
        recoveredWork := classes.expired.map fun leased => leased.identity
        frontier
        submissionIds }

end ParityGrid.Application
