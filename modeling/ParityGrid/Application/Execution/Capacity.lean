import ParityGrid.Foundation.Dict
import ParityGrid.Foundation.Validation
import ParityGrid.Foundation.WaitSet
import ParityGrid.Application.Execution.ClockPolicy

/-!
# Scheduled-work capacity

Permits are acquired global, then strategy, then node, and released in
reverse.  `acquire` takes the three levels at once and may wait for them in
the queues of all three; `acquireLevel` takes one level and never waits.
Every definition that changes the coordinator is one lock-held section.
-/

namespace ParityGrid.Application

open Foundation

/-- `MAX_CAPTURED_LIMIT`. -/
def maxCapturedLimit : Nat := 65536

/-- `MAX_STRATEGY_ID_LENGTH`. -/
def maxStrategyIdLength : Nat := 64

/-- `MAX_OWNER_LENGTH`. -/
def maxOwnerLength : Nat := 128

/-- `MAX_WAIT_MICROSECONDS`. -/
def maxWaitMicroseconds : Int := 60000000

/-- The failures of capacity ledgers. -/
inductive CapacityError where
  | validation (message : String)
  | order (message : String)
  | ownership (message : String)
  | timeout (message : String)
  | closed (message : String)
  | rateDeferred (retryAt : Instant)
  /-- A failure of the clock or of the rate policy passes through. -/
  | policy (error : ClockPolicyError)
deriving DecidableEq

/-- What a clock or a bucket raises is raised by the section that asks it. -/
def policed {α : Type} (x : Except ClockPolicyError α) :
    Except CapacityError α :=
  x.mapError .policy

/-! ## Categories and permits -/

inductive Category where
  | connector
  | cpuPool
  | global
  | node
  | strategy
deriving DecidableEq

def Category.value : Category → String
  | .connector => "connector"
  | .cpuPool => "cpu_pool"
  | .global => "global"
  | .node => "node"
  | .strategy => "strategy"

/-- `_SCHEDULED_CATEGORIES`, in the order of acquisition. -/
def scheduledCategories : List Category := [.global, .strategy, .node]

/-- `_SUBORDINATE_CATEGORIES`. -/
def subordinateCategories : List Category := [.connector, .cpuPool]

/-- `_require_known_category`. -/
def requireKnownCategory (value : Text) : Except CapacityError Category :=
  match (scheduledCategories ++ subordinateCategories).find? fun category =>
      text category.value = value with
  | some category => .ok category
  | none =>
      .error (.validation "category must name a known capacity category")

/-- One slot reservation for a single owner key. -/
structure CapacityPermit where
  category : Category
  limit : Nat
  owner : Text
  slot : Nat
deriving DecidableEq

/-- `==` on permits, which leaves the limit out. -/
def CapacityPermit.same (left right : CapacityPermit) : Bool :=
  left.category = right.category ∧ left.owner = right.owner ∧
    left.slot = right.slot

/-- `_validate_owner_key`; `subject` begins the message. -/
def validateOwnerKey (value : Text) (subject : String) :
    Except CapacityError Unit := do
  require (1 ≤ value.length && value.length ≤ maxOwnerLength)
    (.validation (subject ++ " length is outside the supported range"))
  require (value.all fun c => point ' ' ≤ c && c ≤ point '~')
    (.validation (subject ++ " must use printable ASCII characters"))

/-- `_validate_node_id`. -/
def validateNodeId (value : Text) : Except CapacityError Unit := do
  validateOwnerKey value "node identifier"
  require (scheduledCategories.all fun category =>
      text category.value ≠ value)
    (.validation
      "node identifier must not collide with a scheduled-work level")

/-- `_validate_strategy_id`. -/
def validateStrategyId (value : Text) : Except CapacityError Unit := do
  require (1 ≤ value.length && value.length ≤ maxStrategyIdLength)
    (.validation
      "capacity strategy identifier length is outside the supported range")
  require (value.head?.any isLower && value.tail.all fun c =>
      isLower c || isDigit c || c = point '-')
    (.validation
      "capacity strategy identifier must use a lowercase strategy name")

/-- `_require_bounded_deadline`. -/
def requireBoundedDeadline (deadline now : Instant) :
    Except CapacityError Unit :=
  require (deadline - now ≤ maxWaitMicroseconds)
    (.validation "wait deadline exceeds the maximum bounded wait")

/-! ## Ledgers -/

/-- One bounded permit ledger with waiters in arrival order. -/
structure Ledger where
  category : Category
  limit : Nat
  held : List (Text × Nat)
  freeSlots : List Nat
  waiters : List Text
  maxObservedInUse : Nat
deriving DecidableEq

/-- `_Ledger(category, limit)`. -/
def Ledger.new (category : Category) (limit : Nat) : Ledger where
  category
  limit
  held := []
  freeSlots := List.range' 1 limit
  waiters := []
  maxObservedInUse := 0

def Ledger.holds (ledger : Ledger) (owner : Text) : Bool :=
  (ledger.held.lookup owner).isSome

def Ledger.hasWaiter (ledger : Ledger) (owner : Text) : Bool :=
  decide (owner ∈ ledger.waiters)

def Ledger.enqueue (ledger : Ledger) (owner : Text) : Ledger :=
  { ledger with waiters := ledger.waiters ++ [owner] }

def Ledger.dequeue (ledger : Ledger) (owner : Text) : Ledger :=
  { ledger with waiters := ledger.waiters.erase owner }

/-- A slot is free, and nobody else is first in the queue. -/
def Ledger.mayGrant (ledger : Ledger) (owner : Text) : Bool :=
  !ledger.freeSlots.isEmpty && ledger.waiters.head?.all (· = owner)

/-- `min(free_slots)`; every caller has found a free slot before. -/
def Ledger.nextSlot (ledger : Ledger) : Nat :=
  ledger.freeSlots.min?.getD 0

def Ledger.grant (ledger : Ledger) (owner : Text) : Ledger :=
  let held := alter owner (fun _ => ledger.nextSlot) ledger.held
  { ledger with
    held
    freeSlots := ledger.freeSlots.erase ledger.nextSlot
    waiters := ledger.waiters.erase owner
    maxObservedInUse := max ledger.maxObservedInUse held.length }

/-- `ungrant`: the slot is free again and the queue is as it was. -/
def Ledger.ungrant (ledger : Ledger) (owner : Text) : Ledger :=
  match ledger.held.lookup owner with
  | none => ledger
  | some slot =>
      { ledger with
        held := discard owner ledger.held
        freeSlots := ledger.freeSlots.insert slot }

def Ledger.release (ledger : Ledger) (owner : Text) : Ledger :=
  (ledger.ungrant owner).dequeue owner

/-- The permit of a slot. -/
def Ledger.permit (ledger : Ledger) (owner : Text) (slot : Nat) :
    CapacityPermit where
  category := ledger.category
  limit := ledger.limit
  owner
  slot

/-! ## The coordinator -/

/-- The captured limits that capacity reads. -/
structure CapturedConcurrencySettings where
  globalConcurrentWork : Nat
  perStrategyWork : Nat
  perNodeWork : Nat
  global_valid : 1 ≤ globalConcurrentWork ∧
    globalConcurrentWork ≤ maxCapturedLimit
  strategy_valid : 1 ≤ perStrategyWork ∧ perStrategyWork ≤ maxCapturedLimit
  node_valid : 1 ≤ perNodeWork ∧ perNodeWork ≤ maxCapturedLimit
deriving DecidableEq

theorem twoUnits_valid : 1 ≤ 2 ∧ 2 ≤ maxCapturedLimit := by decide

theorem oneUnit_valid : 1 ≤ 1 ∧ 1 ≤ maxCapturedLimit := by decide

/-- A scheduled-work level; node levels name their node. -/
inductive Level where
  | global
  | strategy
  | node (nodeId : Text)
deriving DecidableEq

/-- One call that waits for the condition. -/
structure ParkedCall where
  owner : Text
  node : Text
  deadline : Instant
  notified : Bool
deriving DecidableEq

/--
The coordinator.  `ledger .global`, `ledger .strategy` and `ledger (.node id)`
are its ledgers; an owner without registered subordinate permits has the empty
list; `parked` is the wait set of its condition, in the order of the queues.
-/
@[ext]
structure ScheduledWorkLimiters where
  strategyId : Text
  nodeIds : List Text
  ledger : Level → Ledger
  subordinates : Text → List CapacityPermit
  parked : List ParkedCall
  closed : Bool

/-- The ledgers of a new coordinator. -/
def newLedger (settings : CapturedConcurrencySettings) : Level → Ledger
  | .global => .new .global settings.globalConcurrentWork
  | .strategy => .new .strategy settings.perStrategyWork
  | .node _ => .new .node settings.perNodeWork

/-- The constructor of the coordinator. -/
def ScheduledWorkLimiters.create (settings : CapturedConcurrencySettings)
    (strategyId : Text) (nodeIds : List Text) :
    Except CapacityError ScheduledWorkLimiters := do
  validateStrategyId strategyId
  require (1 ≤ nodeIds.length && nodeIds.length ≤ maxCapturedLimit)
    (.validation
      "scheduled-work node identifier count is outside the supported range")
  nodeIds.forM validateNodeId
  require (decide nodeIds.Nodup)
    (.validation "scheduled-work node identifiers must be unique")
  pure
    { strategyId
      nodeIds
      ledger := newLedger settings
      subordinates := fun _ => []
      parked := []
      closed := false }

namespace ScheduledWorkLimiters

/-- Replace one ledger. -/
def update (limiters : ScheduledWorkLimiters) (level : Level)
    (change : Ledger → Ledger) : ScheduledWorkLimiters :=
  { limiters with
    ledger := fun other =>
      if other = level then change (limiters.ledger level)
      else limiters.ledger other }

/-- `notify_all`. -/
def notifyAll (limiters : ScheduledWorkLimiters) : ScheduledWorkLimiters :=
  { limiters with
    parked := limiters.parked.map fun call => { call with notified := true } }

/-- `_node_ledger` finds the ledger of a registered node only. -/
def requireNode (limiters : ScheduledWorkLimiters) (node : Text) :
    Except CapacityError Unit :=
  require (decide (node ∈ limiters.nodeIds))
    (.validation "node identifier is not registered with this coordinator")

/-- `_any_node_holds`. -/
def anyNodeHolds (limiters : ScheduledWorkLimiters) (owner : Text) : Bool :=
  limiters.nodeIds.any fun node => (limiters.ledger (.node node)).holds owner

/-- `_holds_all`. -/
def holdsAll (limiters : ScheduledWorkLimiters) (owner : Text) : Bool :=
  (limiters.ledger .global).holds owner &&
    (limiters.ledger .strategy).holds owner && limiters.anyNodeHolds owner

/-- `_is_pending`. -/
def isPending (limiters : ScheduledWorkLimiters) (owner : Text) : Bool :=
  (limiters.ledger .global).hasWaiter owner ||
    (limiters.ledger .strategy).hasWaiter owner

/-- `_is_pending_or_holding`. -/
def isPendingOrHolding (limiters : ScheduledWorkLimiters) (owner : Text) :
    Bool :=
  (limiters.ledger .global).hasWaiter owner ||
    (limiters.ledger .global).holds owner ||
    (limiters.ledger .strategy).hasWaiter owner ||
    (limiters.ledger .strategy).holds owner

/-- Whether one category is among `_held_levels`. -/
def holdsCategory (limiters : ScheduledWorkLimiters) (owner : Text) :
    Category → Bool
  | .global => (limiters.ledger .global).holds owner
  | .strategy => (limiters.ledger .strategy).holds owner
  | .node => limiters.anyNodeHolds owner
  | _ => false

/-- `_held_levels`, in the order of acquisition. -/
def heldLevels (limiters : ScheduledWorkLimiters) (owner : Text) :
    List Category :=
  scheduledCategories.filter (limiters.holdsCategory owner)

/-- `_require_no_subordinates`. -/
def requireNoSubordinates (limiters : ScheduledWorkLimiters) (owner : Text) :
    Except CapacityError Unit :=
  require (limiters.subordinates owner).isEmpty
    (.ownership
      "subordinate permits must be released before scheduled-work capacity")

/-- `_resolve_level_node`, and the level that it means. -/
def resolveLevel (category : Category) (nodeId : Option Text) :
    Except CapacityError Level :=
  match category, nodeId with
  | .node, none =>
      .error (.validation
        "node-level capacity requires the node identifier")
  | .node, some node => do
      validateNodeId node
      pure (.node node)
  | _, some _ =>
      .error (.validation
        "global and strategy capacity take no node identifier")
  | .global, none => .ok .global
  | _, none => .ok .strategy

/-- `_level_ledger` exists for registered nodes only. -/
def requireLevel (limiters : ScheduledWorkLimiters) :
    Level → Except CapacityError Unit
  | .node node => limiters.requireNode node
  | _ => .ok ()

/-- `_grant` of one level. -/
def grant (limiters : ScheduledWorkLimiters) (level : Level) (owner : Text) :
    CapacityPermit × ScheduledWorkLimiters :=
  let ledger := limiters.ledger level
  (ledger.permit owner ledger.nextSlot,
    limiters.update level fun ledger => ledger.grant owner)

/-! ## Acquiring all levels -/

/-- The levels that a call waits for, in the order of acquisition. -/
def levelsOf (node : Text) : List Level := [.global, .strategy, .node node]

/-- All three levels may be granted to the owner. -/
def mayGrantAll (limiters : ScheduledWorkLimiters) (owner node : Text) :
    Bool :=
  (levelsOf node).all fun level => (limiters.ledger level).mayGrant owner

/-- Enter the queues of all three levels. -/
def enqueueAll (limiters : ScheduledWorkLimiters) (owner node : Text) :
    ScheduledWorkLimiters :=
  (levelsOf node).foldl
    (fun state level => state.update level fun l => l.enqueue owner) limiters

/-- Leave the queues of all three levels, and the wait set. -/
def leave (limiters : ScheduledWorkLimiters) (owner node : Text) :
    ScheduledWorkLimiters :=
  let left := (levelsOf node).foldl
    (fun state level => state.update level fun l => l.dequeue owner) limiters
  { left with parked := without ParkedCall.owner owner left.parked }

/-- Wait for the condition: the call is in the wait set, not notified. -/
def park (limiters : ScheduledWorkLimiters) (call : ParkedCall) :
    ScheduledWorkLimiters :=
  { limiters with
    parked := rejoin ParkedCall.owner call limiters.parked }

/-- Grant the three levels in the order of acquisition. -/
def grantAll (limiters : ScheduledWorkLimiters) (owner node : Text) :
    (CapacityPermit × CapacityPermit × CapacityPermit) ×
      ScheduledWorkLimiters :=
  let (first, limiters) := limiters.grant .global owner
  let (second, limiters) := limiters.grant .strategy owner
  let (third, limiters) := limiters.grant (.node node) owner
  ((first, second, third), limiters)

/-- The clock readings of one lock-held section of `acquire`. -/
structure AcquireClock where
  bounding : Reading
  checking : Reading
  waiting : Reading

/-- A deadline is at most one bounded wait away. -/
def requireBounded (deadline : Option Instant) (bounding : Reading) :
    Except CapacityError Unit :=
  match deadline with
  | none => .ok ()
  | some deadline => do
      let now ← policed bounding
      requireBoundedDeadline deadline now

/-- The deadline has not elapsed yet. -/
def requireBefore (deadline : Option Instant) (checking : Reading)
    (message : String) : Except CapacityError Unit :=
  match deadline with
  | none => .ok ()
  | some deadline => do
      let now ← policed checking
      require (now < deadline) (.timeout message)

/-- Only a call with a deadline waits; the clock says for how long. -/
def requireWait (deadline : Option Instant) (waiting : Reading)
    (message : String) : Except CapacityError Unit :=
  match deadline with
  | none => .error (.timeout message)
  | some _ => (policed waiting).map fun _ => ()

/-- The checks of `acquire` before the queues are entered. -/
def requireAdmission (limiters : ScheduledWorkLimiters) (owner node : Text)
    (deadline : Option Instant) (bounding : Reading) :
    Except CapacityError Unit := do
  limiters.requireNode node
  require (!limiters.closed)
    (.closed "scheduled-work coordinator is closed")
  require (!limiters.isPendingOrHolding owner)
    (.ownership "owner key already holds or awaits scheduled-work capacity")
  requireBounded deadline bounding

/-- One turn of the loop of `acquire`: whether it grants, or else waits. -/
def attempt (limiters : ScheduledWorkLimiters) (owner node : Text)
    (deadline : Option Instant) (checking waiting : Reading) :
    Except CapacityError Bool := do
  require (!limiters.closed)
    (.closed "scheduled-work coordinator closed while waiting")
  requireBefore deadline checking
    "scheduled-work wait deadline elapsed before capacity became available"
  if limiters.mayGrantAll owner node then pure true
  else do
    requireWait deadline waiting
      "scheduled-work capacity is saturated and no wait deadline was given"
    pure false

/-- How a section of `acquire` ends. -/
inductive AcquireResult where
  | granted (permits : CapacityPermit × CapacityPermit × CapacityPermit)
  | parked
  | raised (error : CapacityError)
deriving DecidableEq

/-- The loop of `acquire` until it waits or ends. -/
def resume (limiters : ScheduledWorkLimiters) (owner node : Text)
    (deadline : Option Instant) (checking waiting : Reading) :
    AcquireResult × ScheduledWorkLimiters :=
  match limiters.attempt owner node deadline checking waiting with
  | .error error => (.raised error, limiters.leave owner node)
  | .ok true =>
      let (permits, granted) := limiters.grantAll owner node
      (.granted permits, granted.leave owner node)
  | .ok false =>
      (.parked, limiters.park ⟨owner, node, deadline.getD 0, false⟩)

/-- `acquire`, up to its first wait. -/
def acquire (limiters : ScheduledWorkLimiters) (owner node : Text)
    (deadline : Option Instant) (clock : AcquireClock) :
    AcquireResult × ScheduledWorkLimiters :=
  match (do
      validateOwnerKey owner "acquisition owner"
      validateNodeId node
      limiters.requireAdmission owner node deadline clock.bounding) with
  | .error error => (.raised error, limiters)
  | .ok () =>
      (limiters.enqueueAll owner node).resume owner node deadline
        clock.checking clock.waiting

/-- A parked call runs again, until it waits or ends. -/
def wake (limiters : ScheduledWorkLimiters) (call : ParkedCall)
    (clock : AcquireClock) : AcquireResult × ScheduledWorkLimiters :=
  limiters.resume call.owner call.node (some call.deadline) clock.checking
    clock.waiting

/-! ## Single levels and releases -/

/-- `acquire_level`. -/
def acquireLevel (limiters : ScheduledWorkLimiters) (category owner : Text)
    (nodeId : Option Text) :
    Except CapacityError (CapacityPermit × ScheduledWorkLimiters) := do
  let selected ← requireKnownCategory category
  require (scheduledCategories.contains selected)
    (.ownership
      "subordinate capacity cannot be acquired through the scheduled-work coordinator")
  validateOwnerKey owner "acquisition owner"
  let level ← resolveLevel selected nodeId
  require (!limiters.closed) (.closed "scheduled-work coordinator is closed")
  limiters.requireLevel level
  require (!(limiters.heldLevels owner).contains selected)
    (.order "each scheduled-work level is acquired at most once per admission")
  require (decide (limiters.heldLevels owner =
        scheduledCategories.takeWhile (· ≠ selected)) &&
      !limiters.isPending owner)
    (.order
      "scheduled-work levels must be acquired global, strategy, then node")
  require ((limiters.ledger level).mayGrant owner)
    (.timeout
      "scheduled-work level is saturated and incremental acquisition does not wait")
  pure (limiters.grant level owner)

/-- `release_level`. -/
def releaseLevel (limiters : ScheduledWorkLimiters) (category owner : Text)
    (nodeId : Option Text) : Except CapacityError ScheduledWorkLimiters := do
  let selected ← requireKnownCategory category
  require (scheduledCategories.contains selected)
    (.ownership
      "subordinate capacity cannot be released through the scheduled-work coordinator")
  validateOwnerKey owner "release owner"
  let level ← resolveLevel selected nodeId
  limiters.requireLevel level
  require (((scheduledCategories.dropWhile (· ≠ selected)).tail).all
      fun later => !(limiters.heldLevels owner).contains later)
    (.order
      "scheduled-work levels must be released node, strategy, then global")
  require ((limiters.ledger level).holds owner)
    (.ownership "owner holds no capacity at this scheduled-work level")
  limiters.requireNoSubordinates owner
  pure (limiters.update level fun l => l.release owner).notifyAll

/-- `_release_reservation`, which `release` and `release_reservation` are. -/
def release (limiters : ScheduledWorkLimiters) (owner node : Text) :
    Except CapacityError ScheduledWorkLimiters := do
  validateOwnerKey owner "release owner"
  validateNodeId node
  limiters.requireNode node
  require ((levelsOf node).any fun level =>
      (limiters.ledger level).holds owner)
    (.ownership "owner holds no scheduled-work reservation")
  require ((levelsOf node).all fun level =>
      (limiters.ledger level).holds owner)
    (.ownership
      "release requires the complete global, strategy, and node reservation")
  limiters.requireNoSubordinates owner
  pure ((levelsOf node).reverse.foldl
    (fun state level => state.update level fun l => l.release owner)
    limiters).notifyAll

/-- `parent_holds`. -/
def parentHolds (limiters : ScheduledWorkLimiters) (owner : Text) :
    Except CapacityError Bool := do
  validateOwnerKey owner "ownership owner"
  pure (limiters.holdsAll owner)

/-- `register_subordinate`. -/
def registerSubordinate (limiters : ScheduledWorkLimiters) (owner : Text)
    (permit : CapacityPermit) :
    Except CapacityError ScheduledWorkLimiters := do
  validateOwnerKey owner "subordinate owner"
  require (subordinateCategories.contains permit.category)
    (.ownership
      "subordinate registration accepts only connector or cpu-pool permits")
  require (permit.owner = owner)
    (.ownership "subordinate permit must belong to the same owner key")
  require (limiters.holdsAll owner)
    (.ownership
      "subordinate capacity requires a held scheduled-work reservation")
  let registered := limiters.subordinates owner
  pure
    { limiters with
      subordinates := Function.update limiters.subordinates owner
        (if registered.any permit.same then registered
        else registered ++ [permit]) }

/-- `unregister_subordinate`. -/
def unregisterSubordinate (limiters : ScheduledWorkLimiters) (owner : Text)
    (permit : CapacityPermit) :
    Except CapacityError ScheduledWorkLimiters := do
  validateOwnerKey owner "subordinate owner"
  require ((limiters.subordinates owner).any permit.same)
    (.ownership "subordinate permit is not registered for this owner")
  pure
    { limiters with
      subordinates := Function.update limiters.subordinates owner
        ((limiters.subordinates owner).filter fun other =>
          !permit.same other) }

/-- `close`. -/
def close (limiters : ScheduledWorkLimiters) : ScheduledWorkLimiters :=
  if limiters.closed then limiters
  else { limiters with closed := true }.notifyAll

end ScheduledWorkLimiters

end ParityGrid.Application
