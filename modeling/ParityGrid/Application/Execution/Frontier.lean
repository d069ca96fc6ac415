import ParityGrid.Foundation.Digraph
import ParityGrid.Foundation.Sorting
import ParityGrid.Foundation.Validation

/-!
# The durable scheduler frontier

A frontier is the complete state of a concurrent scheduler at one moment: the
plan it runs, the state of every work identity, the lease fence of every
identity in flight, the wait of every identity that is retried, and the control
state.  Its constructor validates all of them together; `Coherent` collects
what an accepted frontier satisfies.
-/

namespace ParityGrid.Application

open ParityGrid.Foundation

/-! ## Bounds, failures and texts -/

/-- `SCHEDULER_FRONTIER_VERSION`. -/
def schedulerFrontierVersion : Int := 2

/-- `MAX_FRONTIER_WORK_ITEMS`. -/
def maxFrontierWorkItems : Nat := 65536

/-- `_MAX_FRONTIER_RETRY_ELIGIBILITY_MICROS`. -/
def maxFrontierRetryEligibilityMicros : Int := 9007199254740991

/-- `MAX_FRONTIER_REASON_LENGTH`. -/
def maxFrontierReasonLength : Nat := 256

/-- `_MAX_FRONTIER_IDENTITY_LENGTH`. -/
def maxFrontierIdentityLength : Nat := 128

/-- `_MAX_FRONTIER_LEASE_FENCE`. -/
def maxFrontierLeaseFence : Int := 2147483647

/-- The failures of schedulers and frontiers. -/
inductive SchedulerError where
  | invalidState (message : String)
  | transition (message : String)
  | frontierVersion (message : String)
  | frontierCorrupt (message : String)
  | capacity (message : String)
deriving DecidableEq

/-- A frontier error: an unsupported version, or a corrupt frontier. -/
def SchedulerError.isFrontierError : SchedulerError → Bool
  | .frontierVersion _ => true
  | .frontierCorrupt _ => true
  | _ => false

def isPrintable (c : CodePoint) : Bool :=
  0x20 ≤ c.val && c.val ≤ 0x7E

/-- Between one and `maximum` printable ASCII characters. -/
def isPlainText (maximum : Nat) (value : Text) : Bool :=
  (1 ≤ value.length && value.length ≤ maximum) && value.all isPrintable

/-- The length is checked before the characters. -/
def requirePlainText (failure : String → SchedulerError) (maximum : Nat)
    (value : Text) (subject : String) : Except SchedulerError Unit := do
  require (1 ≤ value.length && value.length ≤ maximum)
    (failure (subject ++ " length is outside the supported range"))
  require (value.all isPrintable)
    (failure (subject ++ " must use printable ASCII characters"))

theorem requirePlainText_eq_ok {failure : String → SchedulerError}
    {maximum : Nat} {value : Text} {subject : String} {u : Unit} :
    requirePlainText failure maximum value subject = .ok u ↔
      isPlainText maximum value := by
  simp [requirePlainText, isPlainText, bind_eq_ok, require_eq_ok]

/-- `_require_identity_text`. -/
def requireIdentityText (value : Text) (subject : String) :
    Except SchedulerError Unit :=
  requirePlainText .invalidState maxFrontierIdentityLength value subject

/-- `_require_reason_text`. -/
def requireReasonText (value : Text) (subject : String) :
    Except SchedulerError Unit :=
  requirePlainText .invalidState maxFrontierReasonLength value subject

/-- `_require_frontier_text`. -/
def requireFrontierText (value : Text) (subject : String)
    (maximum : Nat := maxFrontierIdentityLength) :
    Except SchedulerError Unit :=
  requirePlainText .frontierCorrupt maximum value subject

/-- `[0-9a-f]{64}`. -/
def isFrontierFingerprint (value : Text) : Bool :=
  value.length = 64 && value.all isHexLower

/-- A fencing generation, shared by pause, cancellation and results. -/
structure ControlGeneration where
  value : Int
  bounds : 1 ≤ value ∧ value ≤ 2147483647
deriving DecidableEq

/-- The bounds of the first generation. -/
theorem firstGeneration_bounds : (1 : Int) ≤ 1 ∧ (1 : Int) ≤ 2147483647 := by
  decide

theorem ControlGeneration.ext {left right : ControlGeneration}
    (equal : left.value = right.value) : left = right := by
  cases left
  cases right
  cases equal
  rfl

/-- `ContractLifecycleState`. -/
inductive ContractLifecycleState where
  | new
  | opened
  | running
  | quiescing
  | paused
  | cancelling
  | closed
  | recoveryRequired
deriving DecidableEq

def ContractLifecycleState.value : ContractLifecycleState → String
  | .new => "new"
  | .opened => "open"
  | .running => "running"
  | .quiescing => "quiescing"
  | .paused => "paused"
  | .cancelling => "cancelling"
  | .closed => "closed"
  | .recoveryRequired => "recovery_required"

/-- `_FRONTIER_CONTROL_STATES`. -/
def ContractLifecycleState.isDurable : ContractLifecycleState → Bool
  | .running | .quiescing | .paused | .cancelling | .recoveryRequired => true
  | .new | .opened | .closed => false

/-! ## Work -/

/-- `FrontierWorkState`. -/
inductive FrontierWorkState where
  | blocked
  | ready
  | admitted
  | awaitingCommit
  | retryWait
  | succeeded
  | quarantined
  | failed
  | cancelled
deriving DecidableEq

def FrontierWorkState.value : FrontierWorkState → String
  | .blocked => "blocked"
  | .ready => "ready"
  | .admitted => "admitted"
  | .awaitingCommit => "awaiting_commit"
  | .retryWait => "retry_wait"
  | .succeeded => "succeeded"
  | .quarantined => "quarantined"
  | .failed => "failed"
  | .cancelled => "cancelled"

def FrontierWorkState.isTerminal : FrontierWorkState → Bool
  | .succeeded | .quarantined | .failed | .cancelled => true
  | .blocked | .ready | .admitted | .awaitingCommit | .retryWait => false

/-- `_IN_FLIGHT_WORK_STATES`. -/
def FrontierWorkState.isInFlight : FrontierWorkState → Bool
  | .admitted | .awaitingCommit => true
  | _ => false

/-- The identity triple of the only scheduled and counted unit of work. -/
structure WorkIdentity where
  runId : Text
  nodeId : Text
  partitionKey : Text
  valid : isPlainText maxFrontierIdentityLength runId &&
    isPlainText maxFrontierIdentityLength nodeId &&
    isPlainText maxFrontierIdentityLength partitionKey
deriving DecidableEq

theorem WorkIdentity.ext {left right : WorkIdentity}
    (run : left.runId = right.runId) (node : left.nodeId = right.nodeId)
    (partition : left.partitionKey = right.partitionKey) : left = right := by
  cases left
  cases right
  cases run
  cases node
  cases partition
  rfl

/-- The constructor names the first field that it rejects. -/
def WorkIdentity.create (runId nodeId partitionKey : Text) :
    Except SchedulerError WorkIdentity :=
  if valid : isPlainText maxFrontierIdentityLength runId &&
      isPlainText maxFrontierIdentityLength nodeId &&
      isPlainText maxFrontierIdentityLength partitionKey then
    .ok ⟨runId, nodeId, partitionKey, valid⟩
  else do
    requireIdentityText runId "work identity run"
    requireIdentityText nodeId "work identity node"
    requireIdentityText partitionKey "work identity partition key"
    .error (.invalidState "work identity is invalid")

theorem WorkIdentity.create_eq_ok {runId nodeId partitionKey : Text}
    {identity : WorkIdentity} :
    WorkIdentity.create runId nodeId partitionKey = .ok identity ↔
      identity.runId = runId ∧ identity.nodeId = nodeId ∧
        identity.partitionKey = partitionKey := by
  unfold create
  constructor
  · intro created
    split at created
    · cases created
      exact ⟨rfl, rfl, rfl⟩
    · simp [bind_eq_ok] at created
  · rintro ⟨rfl, rfl, rfl⟩
    rw [dif_pos identity.valid]

/-- A work identity within its run. -/
def WorkIdentity.key (identity : WorkIdentity) : Text × Text :=
  (identity.nodeId, identity.partitionKey)

/-- `WorkIdentity.sort_key`. -/
def WorkIdentity.sortKey (identity : WorkIdentity) : Text ×ₗ Text ×ₗ Text :=
  toLex (identity.nodeId, toLex (identity.partitionKey, identity.runId))

theorem WorkIdentity.sortKey_injective :
    Function.Injective WorkIdentity.sortKey := by
  intro left right equal
  have pair := toLex.injective equal
  have rest := toLex.injective (Prod.ext_iff.mp pair).2
  exact WorkIdentity.ext (Prod.ext_iff.mp rest).2 (Prod.ext_iff.mp pair).1
    (Prod.ext_iff.mp rest).1

/-- The counters of one node's work behind a dependency barrier. -/
structure FrontierNodeAggregate where
  nodeId : Text
  total : Nat
  succeeded : Nat
  quarantined : Nat
  failed : Nat
  cancelled : Nat
  inFlight : Nat
  retryWait : Nat
deriving DecidableEq

/-- `FrontierNodeAggregate.__post_init__`; a counter is never negative. -/
def FrontierNodeAggregate.check (aggregate : FrontierNodeAggregate) :
    Except SchedulerError Unit := do
  requireIdentityText aggregate.nodeId "frontier node aggregate identity"
  [(aggregate.total, "frontier node aggregate total"),
    (aggregate.succeeded, "frontier node aggregate succeeded"),
    (aggregate.quarantined, "frontier node aggregate quarantined"),
    (aggregate.failed, "frontier node aggregate failed"),
    (aggregate.cancelled, "frontier node aggregate cancelled"),
    (aggregate.inFlight, "frontier node aggregate in flight"),
    (aggregate.retryWait, "frontier node aggregate retry wait")].forM
      fun counter => require (counter.1 ≤ maxFrontierWorkItems)
        (.invalidState (counter.2 ++ " is outside the supported range"))
  let terminal := aggregate.succeeded + aggregate.quarantined +
    aggregate.failed + aggregate.cancelled
  require (terminal ≤ aggregate.total) (.invalidState
    "frontier node aggregate terminal count exceeds the node total")
  require (aggregate.inFlight + aggregate.retryWait + terminal ≤
    aggregate.total)
    (.invalidState "frontier node aggregate counts exceed the node total")

def FrontierNodeAggregate.permitsContinuation
    (aggregate : FrontierNodeAggregate) : Bool :=
  0 < aggregate.total && aggregate.succeeded = aggregate.total &&
    aggregate.inFlight = 0 && aggregate.retryWait = 0

def FrontierNodeAggregate.isBlockedTerminal
    (aggregate : FrontierNodeAggregate) : Bool :=
  0 < aggregate.quarantined + aggregate.failed + aggregate.cancelled

/-- The counters of the states of one node's work. -/
def FrontierNodeAggregate.count (nodeId : Text)
    (states : List FrontierWorkState) : FrontierNodeAggregate where
  nodeId
  total := states.length
  succeeded := states.count .succeeded
  quarantined := states.count .quarantined
  failed := states.count .failed
  cancelled := states.count .cancelled
  inFlight := states.countP (·.isInFlight)
  retryWait := states.count .retryWait

/-- The counted aggregate, checked by its constructor. -/
def nodeAggregate (nodeId : Text) (states : List FrontierWorkState) :
    Except SchedulerError FrontierNodeAggregate := do
  let aggregate := FrontierNodeAggregate.count nodeId states
  aggregate.check
  return aggregate

/-- Different states are counted apart. -/
theorem FrontierNodeAggregate.count_le_total (states : List FrontierWorkState) :
    states.countP (·.isInFlight) + states.count .retryWait +
        (states.count .succeeded + states.count .quarantined +
          states.count .failed + states.count .cancelled) ≤ states.length := by
  induction states with
  | nil => simp
  | cons state rest ih =>
      cases state <;>
        simp +decide only [List.countP_cons, List.count_cons,
          List.length_cons, if_true, if_false] <;>
        omega

/-- The constructor accepts every count of a bounded node. -/
theorem nodeAggregate_eq_ok {nodeId : Text} {states : List FrontierWorkState}
    (plain : isPlainText maxFrontierIdentityLength nodeId)
    (bounded : states.length ≤ maxFrontierWorkItems) :
    nodeAggregate nodeId states =
      .ok (FrontierNodeAggregate.count nodeId states) := by
  have total := FrontierNodeAggregate.count_le_total states
  have accepted :
      (FrontierNodeAggregate.count nodeId states).check = .ok () := by
    simp only [FrontierNodeAggregate.check, bind_eq_ok, requireIdentityText,
      requirePlainText_eq_ok, forM_eq_ok, require_eq_ok,
      List.forall_mem_cons, decide_eq_true_eq]
    simp only [FrontierNodeAggregate.count]
    refine ⟨(), plain, (), ⟨?_, ?_, ?_, ?_, ?_, ?_, ?_, by simp⟩, (), ?_, ?_⟩
    all_goals omega
  simp [nodeAggregate, accepted, pure, Except.pure]

/-- A node lets its successors start when it has work and all of it
succeeded. -/
theorem permitsContinuation_count {nodeId : Text}
    {states : List FrontierWorkState} :
    (FrontierNodeAggregate.count nodeId states).permitsContinuation ↔
      states ≠ [] ∧ ∀ state ∈ states, state = .succeeded := by
  have total := FrontierNodeAggregate.count_le_total states
  simp only [FrontierNodeAggregate.permitsContinuation, Bool.and_eq_true,
    decide_eq_true_eq]
  simp only [FrontierNodeAggregate.count]
  constructor
  · rintro ⟨⟨⟨positive, all⟩, _⟩, _⟩
    refine ⟨List.length_pos_iff.mp positive, ?_⟩
    intro state member
    exact (List.count_eq_length.mp all state member).symm
  · rintro ⟨nonempty, all⟩
    have counted : states.count .succeeded = states.length :=
      List.count_eq_length.mpr fun state member => (all state member).symm
    refine ⟨⟨⟨List.length_pos_iff.mpr nonempty, counted⟩, ?_⟩, ?_⟩
    all_goals omega

/-- A durable retry wait, eligible at an instant of the injected clock. -/
structure FrontierRetryWait where
  identity : WorkIdentity
  eligibleAtMicros : Int
  reason : Text
  eligible : 0 ≤ eligibleAtMicros ∧
    eligibleAtMicros ≤ maxFrontierRetryEligibilityMicros
  described : isPlainText maxFrontierReasonLength reason
deriving DecidableEq

def FrontierRetryWait.create (identity : WorkIdentity)
    (eligibleAtMicros : Int) (reason : Text) :
    Except SchedulerError FrontierRetryWait :=
  if eligible : 0 ≤ eligibleAtMicros ∧
      eligibleAtMicros ≤ maxFrontierRetryEligibilityMicros then
    if described : isPlainText maxFrontierReasonLength reason then
      .ok ⟨identity, eligibleAtMicros, reason, eligible, described⟩
    else do
      requireReasonText reason "frontier retry wait reason"
      .error (.invalidState "frontier retry wait reason is invalid")
  else
    .error (.invalidState
      "frontier retry wait eligibility is outside the supported range")

theorem FrontierRetryWait.create_eq_ok {identity : WorkIdentity}
    {eligibleAtMicros : Int} {reason : Text} {wait : FrontierRetryWait} :
    FrontierRetryWait.create identity eligibleAtMicros reason = .ok wait ↔
      wait.identity = identity ∧ wait.eligibleAtMicros = eligibleAtMicros ∧
        wait.reason = reason := by
  unfold create
  constructor
  · intro created
    split at created
    · split at created
      · cases created
        exact ⟨rfl, rfl, rfl⟩
      · simp [bind_eq_ok] at created
    · cases created
  · rintro ⟨rfl, rfl, rfl⟩
    rw [dif_pos wait.eligible, dif_pos wait.described]

/-! ## Dependency barriers -/

/-- `predecessors[node]`, in the order of the edges. -/
def predecessorsOf (edges : List (Text × Text)) (node : Text) : List Text :=
  (edges.filter fun edge => edge.2 = node).map Prod.fst

theorem mem_predecessorsOf {edges : List (Text × Text)}
    {source node : Text} :
    source ∈ predecessorsOf edges node ↔ (source, node) ∈ edges := by
  simp [predecessorsOf]

/-- `node_states[node]`, in the order of the work. -/
def nodeStates (states : List (WorkIdentity × FrontierWorkState))
    (node : Text) : List FrontierWorkState :=
  (states.filter fun entry => entry.1.nodeId = node).map Prod.snd

theorem mem_nodeStates {states : List (WorkIdentity × FrontierWorkState)}
    {node : Text} {state : FrontierWorkState} :
    state ∈ nodeStates states node ↔
      ∃ identity, (identity, state) ∈ states ∧ identity.nodeId = node := by
  simp [nodeStates]

def checkBarrier (permitted : Bool) (state : FrontierWorkState) :
    Except SchedulerError Unit := do
  require (!(permitted && state = .blocked)) (.frontierCorrupt
    "frontier dependency barrier leaves work blocked after all predecessors succeeded")
  require (permitted || state = .blocked) (.frontierCorrupt
    "frontier work bypasses an unsatisfied dependency barrier")

/-- `_validate_frontier_dependency_barriers`. -/
def validateFrontierDependencyBarriers (nodeOrder : List Text)
    (edges : List (Text × Text))
    (states : List (WorkIdentity × FrontierWorkState)) :
    Except SchedulerError Unit := do
  let aggregates ← nodeOrder.mapM fun node => do
    let aggregate ← nodeAggregate node (nodeStates states node)
    return (node, aggregate)
  nodeOrder.forM fun node =>
    let required := predecessorsOf edges node
    if required = [] then
      .ok ()
    else
      let permitted := required.all fun predecessor =>
        (aggregates.lookup predecessor).any (·.permitsContinuation)
      (nodeStates states node).forM (checkBarrier permitted)

/-- A node has work and all of it succeeded. -/
def WorkSucceeded (states : List (WorkIdentity × FrontierWorkState))
    (node : Text) : Prop :=
  nodeStates states node ≠ [] ∧
    ∀ state ∈ nodeStates states node, state = .succeeded

/-- Behind predecessors, work is blocked until all their work succeeded. -/
def BarrierHolds (edges : List (Text × Text))
    (states : List (WorkIdentity × FrontierWorkState)) (node : Text) : Prop :=
  predecessorsOf edges node ≠ [] →
    ∀ state ∈ nodeStates states node, state = .blocked ↔
      ¬ ∀ predecessor ∈ predecessorsOf edges node,
        WorkSucceeded states predecessor

theorem checkBarrier_eq_ok {permitted : Bool} {state : FrontierWorkState}
    {u : Unit} :
    checkBarrier permitted state = .ok u ↔
      (state = .blocked ↔ permitted = false) := by
  cases permitted <;> simp [checkBarrier, bind_eq_ok, require_eq_ok]

/-- The aggregates of a bounded frontier are all accepted. -/
theorem countAggregates_eq_ok {nodeOrder : List Text}
    {states : List (WorkIdentity × FrontierWorkState)}
    (plain : ∀ node ∈ nodeOrder, isPlainText maxFrontierIdentityLength node)
    (bounded : states.length ≤ maxFrontierWorkItems) :
    (nodeOrder.mapM fun node => do
      let aggregate ← nodeAggregate node (nodeStates states node)
      return (node, aggregate)) = .ok (nodeOrder.map fun node =>
        (node, FrontierNodeAggregate.count node
          (nodeStates states node))) := by
  rw [mapM_eq_ok, List.map_map]
  apply List.map_congr_left
  intro node member
  have short : (nodeStates states node).length ≤ maxFrontierWorkItems := by
    rw [nodeStates, List.length_map]
    exact (List.length_filter_le _ _).trans bounded
  simp [nodeAggregate_eq_ok (plain node member) short, pure, Except.pure]

/-- The barriers of a bounded frontier hold exactly when they are accepted. -/
theorem validateFrontierDependencyBarriers_eq_ok {nodeOrder : List Text}
    {edges : List (Text × Text)}
    {states : List (WorkIdentity × FrontierWorkState)} {u : Unit}
    (plain : ∀ node ∈ nodeOrder, isPlainText maxFrontierIdentityLength node)
    (bounded : states.length ≤ maxFrontierWorkItems)
    (spans : Spans nodeOrder edges) :
    validateFrontierDependencyBarriers nodeOrder edges states = .ok u ↔
      ∀ node ∈ nodeOrder, BarrierHolds edges states node := by
  rw [validateFrontierDependencyBarriers,
    countAggregates_eq_ok plain bounded, ok_bind, forM_eq_ok]
  apply forall₂_congr
  intro node member
  unfold BarrierHolds
  by_cases root : predecessorsOf edges node = []
  · simp [root]
  · rw [if_neg root, forM_eq_ok]
    simp only [ne_eq, root, not_false_eq_true, true_implies,
      checkBarrier_eq_ok]
    apply forall₂_congr
    intro state _
    apply iff_congr Iff.rfl
    rw [Bool.eq_false_iff, not_iff_not, List.all_eq_true]
    apply forall₂_congr
    intro predecessor required
    have known := (spans _ (mem_predecessorsOf.mp required)).1
    rw [lookup_map_self _ known]
    exact permitsContinuation_count

/-! ## The frontier and its constructor -/

/-- The fields of a frontier, before they are validated together. -/
structure FrontierFields where
  version : Int
  planFingerprint : Text
  controlGeneration : ControlGeneration
  runId : Text
  nodeOrder : List Text
  edges : List (Text × Text)
  workStates : List (WorkIdentity × FrontierWorkState)
  leaseFences : List (WorkIdentity × Int)
  retryWaits : List FrontierRetryWait
  controlState : ContractLifecycleState
  recoveryRequiredReason : Option Text
deriving DecidableEq

namespace FrontierFields

def identities (fields : FrontierFields) : List WorkIdentity :=
  fields.workStates.map Prod.fst

def fenced (fields : FrontierFields) : List WorkIdentity :=
  fields.leaseFences.map Prod.fst

def waiting (fields : FrontierFields) : List WorkIdentity :=
  fields.retryWaits.map FrontierRetryWait.identity

/-- The identities whose state is `RETRY_WAIT`. -/
def retried (fields : FrontierFields) : List WorkIdentity :=
  (fields.workStates.filter fun entry => entry.2 = .retryWait).map Prod.fst

/-- The version, the plan and its graph. -/
def checkPlan (fields : FrontierFields) : Except SchedulerError Unit := do
  require (fields.version = schedulerFrontierVersion)
    (.frontierVersion "frontier schema version is unsupported")
  require (isFrontierFingerprint fields.planFingerprint) (.frontierCorrupt
    "frontier plan fingerprint must use 64 lowercase hexadecimal characters")
  requireFrontierText fields.runId "frontier run identity"
  fields.nodeOrder.forM fun node =>
    requireFrontierText node "frontier node identity"
  require (fields.nodeOrder ≠ [])
    (.frontierCorrupt "frontier node order must not be empty")
  require (decide fields.nodeOrder.Nodup)
    (.frontierCorrupt "frontier node order must be unique")
  fields.edges.forM fun edge => do
    requireFrontierText edge.1 "frontier edge source"
    requireFrontierText edge.2 "frontier edge target"
  require (decide fields.edges.Nodup)
    (.frontierCorrupt "frontier edges must be unique")
  require (fields.edges = sortedBy toLex fields.edges)
    (.frontierCorrupt "frontier edges must be sorted")
  fields.edges.forM fun edge => do
    require (edge.1 ∈ fields.nodeOrder && edge.2 ∈ fields.nodeOrder)
      (.frontierCorrupt "frontier edge must identify a known node")
    require (edge.1 ≠ edge.2)
      (.frontierCorrupt "frontier edge cannot be a self dependency")
  require (!containsCycle fields.nodeOrder fields.edges)
    (.frontierCorrupt "frontier edges must not contain a directed cycle")

/-- The work states, fences and waits, each on its own. -/
def checkEntries (fields : FrontierFields) : Except SchedulerError Unit := do
  require (fields.workStates.length ≤ maxFrontierWorkItems)
    (.frontierCorrupt "frontier exceeds the work item bound")
  fields.leaseFences.forM fun entry =>
    require (1 ≤ entry.2 && entry.2 ≤ maxFrontierLeaseFence)
      (.frontierCorrupt "frontier lease fence is outside the supported range")
  fields.identities.forM fun identity => do
    require (identity.nodeId ∈ fields.nodeOrder)
      (.frontierCorrupt "frontier work item must reference a known node")
    require (identity.runId = fields.runId)
      (.frontierCorrupt "frontier work item must reference the frontier run")
  require (decide fields.identities.Nodup)
    (.frontierCorrupt "frontier work identities must be unique")
  require (fields.identities = sortedBy WorkIdentity.sortKey fields.identities)
    (.frontierCorrupt "frontier work states must be sorted")
  require (fields.nodeOrder.all fun node =>
      fields.identities.any fun identity => identity.nodeId = node)
    (.frontierCorrupt "every frontier node requires work items")
  fields.fenced.forM fun identity =>
    require (identity ∈ fields.identities)
      (.frontierCorrupt "frontier lease fence must reference known work")
  require (decide fields.fenced.Nodup)
    (.frontierCorrupt "frontier lease fences must be unique")
  require (fields.fenced = sortedBy WorkIdentity.sortKey fields.fenced)
    (.frontierCorrupt "frontier lease fences must be sorted")
  require (decide fields.waiting.Nodup)
    (.frontierCorrupt "frontier retry waits must be unique")
  require (fields.waiting = sortedBy WorkIdentity.sortKey fields.waiting)
    (.frontierCorrupt "frontier retry waits must be sorted")

/-- Fences and waits against the work states. -/
def checkHoldings (fields : FrontierFields) : Except SchedulerError Unit := do
  fields.workStates.forM fun entry =>
    if entry.2.isInFlight then
      require (entry.1 ∈ fields.fenced)
        (.frontierCorrupt "in-flight frontier work must hold a lease fence")
    else
      require (entry.1 ∉ fields.fenced)
        (.frontierCorrupt "frontier lease fence is held by non-in-flight work")
  require (fields.retried.all (· ∈ fields.waiting) &&
      fields.waiting.all (· ∈ fields.retried))
    (.frontierCorrupt "frontier retry waits must match retry-wait work")

/-- The control state and its reason. -/
def checkControl (fields : FrontierFields) : Except SchedulerError Unit := do
  require fields.controlState.isDurable
    (.frontierCorrupt "frontier control state is not durable")
  match fields.recoveryRequiredReason with
  | some reason =>
      if fields.controlState = .recoveryRequired then
        requireFrontierText reason "frontier recovery reason"
          maxFrontierReasonLength
      else
        .error (.frontierCorrupt
          "frontier recovery reason requires recovery-required control state")
  | none =>
      require (fields.controlState ≠ .recoveryRequired)
        (.frontierCorrupt "frontier recovery reason must be text")

/-- `SchedulerFrontierV2.__post_init__`. -/
def check (fields : FrontierFields) : Except SchedulerError Unit := do
  fields.checkPlan
  fields.checkEntries
  fields.checkHoldings
  validateFrontierDependencyBarriers fields.nodeOrder fields.edges
    fields.workStates
  fields.checkControl

/-! ### What the constructor accepts -/

structure PlanCoherent (fields : FrontierFields) : Prop where
  version : fields.version = schedulerFrontierVersion
  fingerprint : isFrontierFingerprint fields.planFingerprint
  run : isPlainText maxFrontierIdentityLength fields.runId
  plain : ∀ node ∈ fields.nodeOrder,
    isPlainText maxFrontierIdentityLength node
  nonempty : fields.nodeOrder ≠ []
  nodes : fields.nodeOrder.Nodup
  ends : ∀ edge ∈ fields.edges,
    isPlainText maxFrontierIdentityLength edge.1 ∧
      isPlainText maxFrontierIdentityLength edge.2
  edges : fields.edges.Nodup
  ordered : fields.edges = sortedBy toLex fields.edges
  spans : Spans fields.nodeOrder fields.edges
  proper : ∀ edge ∈ fields.edges, edge.1 ≠ edge.2
  acyclic : Acyclic fields.edges

theorem checkPlan_eq_ok {fields : FrontierFields} {u : Unit} :
    fields.checkPlan = .ok u ↔ fields.PlanCoherent := by
  simp only [checkPlan, check_bind_eq_ok, require_eq_ok, requireFrontierText,
    requirePlainText_eq_ok, forM_eq_ok, decide_eq_true_eq, ne_eq,
    Bool.and_eq_true, Bool.not_eq_true', decide_not, decide_eq_false_iff_not]
  constructor
  · rintro ⟨version, fingerprint, run, plain, nonempty, nodes, ends, edges,
      ordered, placed, acyclic⟩
    have spans : Spans fields.nodeOrder fields.edges :=
      fun edge member => (placed edge member).1
    exact ⟨version, fingerprint, run, plain, nonempty, nodes, ends, edges,
      ordered, spans, fun edge member => (placed edge member).2,
      (containsCycle_eq_false nodes spans).mp acyclic⟩
  · intro coherent
    exact ⟨coherent.version, coherent.fingerprint, coherent.run,
      coherent.plain, coherent.nonempty, coherent.nodes, coherent.ends,
      coherent.edges, coherent.ordered,
      fun edge member => ⟨coherent.spans edge member,
        coherent.proper edge member⟩,
      (containsCycle_eq_false coherent.nodes coherent.spans).mpr
        coherent.acyclic⟩

/-- Work, fences and waits are listed once, in order, within bounds. -/
structure EntriesCoherent (fields : FrontierFields) : Prop where
  bounded : fields.workStates.length ≤ maxFrontierWorkItems
  fences : ∀ entry ∈ fields.leaseFences,
    1 ≤ entry.2 ∧ entry.2 ≤ maxFrontierLeaseFence
  placed : ∀ identity ∈ fields.identities,
    identity.nodeId ∈ fields.nodeOrder ∧ identity.runId = fields.runId
  work : fields.identities.Nodup
  workOrdered :
    fields.identities = sortedBy WorkIdentity.sortKey fields.identities
  covers : ∀ node ∈ fields.nodeOrder,
    ∃ identity ∈ fields.identities, identity.nodeId = node
  fencedKnown : ∀ identity ∈ fields.fenced, identity ∈ fields.identities
  fenced : fields.fenced.Nodup
  fencedOrdered : fields.fenced = sortedBy WorkIdentity.sortKey fields.fenced
  waiting : fields.waiting.Nodup
  waitingOrdered :
    fields.waiting = sortedBy WorkIdentity.sortKey fields.waiting

theorem checkEntries_eq_ok {fields : FrontierFields} {u : Unit} :
    fields.checkEntries = .ok u ↔ fields.EntriesCoherent := by
  simp only [checkEntries, check_bind_eq_ok, require_eq_ok, forM_eq_ok,
    decide_eq_true_eq, Bool.and_eq_true, List.all_eq_true, List.any_eq_true]
  constructor
  · rintro ⟨bounded, fences, placed, work, workOrdered, covers, fencedKnown,
      fenced, fencedOrdered, waiting, waitingOrdered⟩
    exact ⟨bounded, fences, placed, work, workOrdered, covers, fencedKnown,
      fenced, fencedOrdered, waiting, waitingOrdered⟩
  · rintro ⟨bounded, fences, placed, work, workOrdered, covers, fencedKnown,
      fenced, fencedOrdered, waiting, waitingOrdered⟩
    exact ⟨bounded, fences, placed, work, workOrdered, covers, fencedKnown,
      fenced, fencedOrdered, waiting, waitingOrdered⟩

/-- Work in flight is fenced, and retried work waits. -/
structure HoldingsCoherent (fields : FrontierFields) : Prop where
  flight : ∀ entry ∈ fields.workStates,
    entry.2.isInFlight ↔ entry.1 ∈ fields.fenced
  waits : ∀ identity,
    (identity, .retryWait) ∈ fields.workStates ↔ identity ∈ fields.waiting

theorem checkHoldings_eq_ok {fields : FrontierFields} {u : Unit} :
    fields.checkHoldings = .ok u ↔ fields.HoldingsCoherent := by
  have retried : ∀ identity, identity ∈ fields.retried ↔
      (identity, .retryWait) ∈ fields.workStates := by
    intro identity
    simp [FrontierFields.retried]
  have held : ∀ entry : WorkIdentity × FrontierWorkState,
      (if entry.2.isInFlight then
        require (entry.1 ∈ fields.fenced) (SchedulerError.frontierCorrupt
          "in-flight frontier work must hold a lease fence")
      else
        require (entry.1 ∉ fields.fenced) (SchedulerError.frontierCorrupt
          "frontier lease fence is held by non-in-flight work")) = .ok () ↔
        (entry.2.isInFlight ↔ entry.1 ∈ fields.fenced) := by
    intro entry
    cases entry.2.isInFlight <;> simp [require_eq_ok]
  simp only [checkHoldings, check_bind_eq_ok, require_eq_ok, forM_eq_ok, held,
    decide_eq_true_eq, Bool.and_eq_true, List.all_eq_true, retried]
  constructor
  · rintro ⟨flight, forward, backward⟩
    exact ⟨flight, fun identity => ⟨fun member => forward identity member,
      backward identity⟩⟩
  · rintro ⟨flight, waits⟩
    exact ⟨flight, fun identity member => (waits identity).mp member,
      fun identity member => (waits identity).mpr member⟩

/-- The reason is there exactly when recovery is required. -/
structure ControlCoherent (fields : FrontierFields) : Prop where
  durable : fields.controlState.isDurable
  reason : fields.controlState = .recoveryRequired ↔
    fields.recoveryRequiredReason ≠ none
  described : ∀ reason ∈ fields.recoveryRequiredReason,
    isPlainText maxFrontierReasonLength reason

theorem checkControl_eq_ok {fields : FrontierFields} {u : Unit} :
    fields.checkControl = .ok u ↔ fields.ControlCoherent := by
  simp only [checkControl, check_bind_eq_ok, require_eq_ok]
  constructor
  · rintro ⟨durable, described⟩
    cases reason : fields.recoveryRequiredReason with
    | none =>
        simp only [reason, require_eq_ok, decide_eq_true_eq] at described
        exact ⟨durable, by simp [reason, described], by simp [reason]⟩
    | some reasonText =>
        simp only [reason] at described
        split at described
        next required =>
          rw [requireFrontierText, requirePlainText_eq_ok] at described
          exact ⟨durable, by simp [reason, required], by
            simpa [reason] using described⟩
        next => cases described
  · rintro ⟨durable, required, described⟩
    refine ⟨durable, ?_⟩
    cases reason : fields.recoveryRequiredReason with
    | none =>
        rw [reason] at required
        simp only [require_eq_ok, decide_eq_true_eq]
        intro same
        exact required.mp same rfl
    | some reasonText =>
        rw [reason] at required
        dsimp only
        rw [if_pos (required.mpr (by simp)), requireFrontierText,
          requirePlainText_eq_ok]
        exact described reasonText reason

/-- What the constructor accepts. -/
structure Coherent (fields : FrontierFields) : Prop where
  plan : fields.PlanCoherent
  entries : fields.EntriesCoherent
  holdings : fields.HoldingsCoherent
  barriers : ∀ node ∈ fields.nodeOrder,
    BarrierHolds fields.edges fields.workStates node
  control : fields.ControlCoherent

theorem check_eq_ok {fields : FrontierFields} {u : Unit} :
    fields.check = .ok u ↔ fields.Coherent := by
  simp only [check, check_bind_eq_ok, checkPlan_eq_ok, checkEntries_eq_ok,
    checkHoldings_eq_ok, checkControl_eq_ok]
  constructor
  · rintro ⟨plan, entries, holdings, barriers, control⟩
    exact ⟨plan, entries, holdings,
      (validateFrontierDependencyBarriers_eq_ok plan.plain entries.bounded
        plan.spans).mp barriers, control⟩
  · rintro ⟨plan, entries, holdings, barriers, control⟩
    exact ⟨plan, entries, holdings,
      (validateFrontierDependencyBarriers_eq_ok plan.plain entries.bounded
        plan.spans).mpr barriers, control⟩

end FrontierFields

/-- A frontier: fields that its constructor accepted. -/
structure SchedulerFrontierV2 extends FrontierFields where
  checked : toFrontierFields.check = .ok ()
deriving DecidableEq

theorem SchedulerFrontierV2.ext {left right : SchedulerFrontierV2}
    (equal : left.toFrontierFields = right.toFrontierFields) :
    left = right := by
  cases left
  cases right
  cases equal
  rfl

theorem SchedulerFrontierV2.coherent (frontier : SchedulerFrontierV2) :
    frontier.Coherent :=
  FrontierFields.check_eq_ok.mp frontier.checked

/-- `SchedulerFrontierV2(...)`. -/
def SchedulerFrontierV2.create (fields : FrontierFields) :
    Except SchedulerError SchedulerFrontierV2 :=
  match checked : fields.check with
  | .ok () => .ok ⟨fields, checked⟩
  | .error failure => .error failure

theorem SchedulerFrontierV2.create_eq_ok {fields : FrontierFields}
    {frontier : SchedulerFrontierV2} :
    SchedulerFrontierV2.create fields = .ok frontier ↔
      frontier.toFrontierFields = fields := by
  unfold create
  constructor
  · intro created
    split at created
    · cases created
      rfl
    · cases created
  · rintro rfl
    split
    · rfl
    next rejected =>
      rw [frontier.checked] at rejected
      cases rejected

end ParityGrid.Application
