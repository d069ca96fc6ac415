import ParityGrid.Application.Execution.Subordinate

/-!
# Capacity accounting

One coordinator and any number of subordinate limiters over it, in any
interleaving of their lock-held sections: every ledger accounts for its slots,
holders are nested, and no scheduled permit is given back while a subordinate
permit of its owner is registered.
-/

namespace ParityGrid.Application

open Foundation
open ScheduledWorkLimiters (ScheduledOp requireBounded AcquireClock)

namespace SubordinateCallLimiter

variable {limiter : SubordinateCallLimiter}

/-! ## Sections of a subordinate limiter -/

theorem attempt_grants {owner : Text} {deadline : Option Instant}
    {checking waiting : Reading}
    (granted : limiter.attempt owner deadline checking waiting = .ok true) :
    limiter.ledger.mayGrant owner := by
  simp only [attempt, bind_eq_ok] at granted
  obtain ⟨_, _, _, _, granted⟩ := granted
  split at granted
  · assumption
  · simp only [bind_eq_ok] at granted
    obtain ⟨_, _, impossible⟩ := granted
    cases impossible

theorem ungrant_leave (limiter : SubordinateCallLimiter) (owner : Text) :
    (limiter.ungrant owner).leave owner =
      (limiter.leave owner).ungrant owner := by
  have ledgers : (limiter.ledger.ungrant owner).dequeue owner =
      (limiter.ledger.dequeue owner).ungrant owner := by
    simp only [Ledger.ungrant, Ledger.dequeue]
    split <;> rfl
  simp only [leave, ungrant, ledgers]

theorem notifyAll_leave (limiter : SubordinateCallLimiter) (owner : Text) :
    limiter.notifyAll.leave owner = (limiter.leave owner).notifyAll := by
  have parked : without SubordinateCall.owner owner
      (limiter.parked.map fun call => { call with notified := true }) =
        (without SubordinateCall.owner owner limiter.parked).map
          fun call => { call with notified := true } := by
    rw [without, List.filter_map]
    rfl
  simp only [leave, notifyAll, parked]

/-- A granted slot stays held or is given back; either way all is kept. -/
theorem Kept.grantChecked {owner : Text} (kept : (limiter.leave owner).Kept)
    (free : limiter.ledger.freeSlots ≠ [])
    (idle : ¬ limiter.ledger.holds owner) (deadline : Option Instant)
    (rating : Reading) :
    ((limiter.grantChecked owner deadline rating).2.leave owner).Kept := by
  have fresh : ∀ call ∈ (limiter.leave owner).parked, call.owner ≠ owner :=
    fun call member => (mem_without.mp member).2
  have granted : ((limiter.grant owner).leave owner).Kept :=
    kept.grant free idle fresh
  simp only [SubordinateCallLimiter.grantChecked]
  split
  · exact granted
  · split
    · exact granted.unlock
    · split
      · exact granted.unlock
      · exact { granted with }
      · have given : (((limiter.grant owner).ungrant owner).notifyAll.leave
            owner).Kept := by
          rw [notifyAll_leave, ungrant_leave]
          exact (granted.ungrant owner).notifyAll
        exact { given.unlock with }

/-- The loop keeps the invariant of the state in which its call waits. -/
theorem Kept.resume {owner : Text} {deadline : Option Instant}
    (waits : (limiter.park ⟨owner, deadline.getD 0, false⟩).Kept)
    (clock : SubordinateClock) :
    (limiter.resume owner deadline clock).2.Kept := by
  let call : SubordinateCall := ⟨owner, deadline.getD 0, false⟩
  have left : (limiter.leave owner).Kept := by
    rw [← leave_park limiter call]
    exact waits.leave owner
  have idle : ¬ limiter.ledger.holds owner :=
    waits.idle call (mem_rejoin SubordinateCall.owner call limiter.parked)
  simp only [SubordinateCallLimiter.resume]
  split
  · exact left.unlock
  next granted =>
    have may := attempt_grants granted
    simp only [Ledger.mayGrant, Bool.and_eq_true, Bool.not_eq_true',
      List.isEmpty_eq_false_iff] at may
    exact left.grantChecked may.1 idle deadline clock.rating
  · exact waits.unlock

theorem Kept.not_parked (kept : limiter.Kept) {owner : Text}
    (free : ¬ limiter.ledger.hasWaiter owner) :
    ∀ call ∈ limiter.parked, call.owner ≠ owner := by
  rintro call member rfl
  apply free
  rw [Ledger.hasWaiter, decide_eq_true_eq, kept.queue]
  exact List.mem_map.mpr ⟨call, member, rfl⟩

/-- Who passes the checks neither holds nor waits. -/
theorem Kept.requireReservation (kept : limiter.Kept)
    {holds : Except CapacityError Bool} {owner : Text}
    (passed : limiter.requireReservation holds owner = .ok ()) :
    ¬ limiter.ledger.holds owner ∧
      ∀ call ∈ limiter.parked, call.owner ≠ owner := by
  simp only [SubordinateCallLimiter.requireReservation, bind_eq_ok,
    require_eq_ok, Bool.not_eq_true', Bool.or_eq_false_iff] at passed
  obtain ⟨_, _, _, _, idle, free⟩ := passed
  exact ⟨by simp [idle], kept.not_parked (by simp [free])⟩

theorem Kept.proceedAcquire (kept : limiter.Kept)
    (holds : Except CapacityError Bool) (owner : Text)
    (deadline : Option Instant) (clock : SubordinateClock) :
    (limiter.proceedAcquire holds owner deadline clock).2.Kept := by
  simp only [SubordinateCallLimiter.proceedAcquire]
  split
  · exact kept.unlock
  next passed =>
    obtain ⟨_, reserved, _⟩ := bind_eq_ok.mp passed
    obtain ⟨idle, fresh⟩ := kept.requireReservation reserved
    apply Kept.resume
    exact kept.join ⟨owner, deadline.getD 0, false⟩ fresh idle

theorem Kept.proceedTry (kept : limiter.Kept)
    (holds : Except CapacityError Bool) (owner : Text) (rating : Reading) :
    (limiter.proceedTry holds owner rating).2.Kept := by
  simp only [SubordinateCallLimiter.proceedTry]
  split
  · exact kept.unlock
  next passed =>
    obtain ⟨idle, fresh⟩ := kept.requireReservation passed
    split
    · exact kept.unlock
    next may =>
      simp only [Ledger.mayGrant, Bool.not_eq_true', Bool.not_eq_false,
        Bool.and_eq_true, Bool.not_eq_true', List.isEmpty_eq_false_iff]
        at may
      have granted := kept.grant may.1 idle fresh
      split
      · exact granted
      · split
        · exact kept.unlock
        · split
          · exact kept.unlock
          · exact { granted with }
          · exact { kept.unlock with }

/-! ## Operations of a subordinate limiter -/

/-- The sections of a limiter, with the clock readings they ask for. -/
inductive SubordinateOp where
  | acquire (owner : Text) (parent : List CapacityPermit)
      (deadline : Option Instant)
  | tryAcquire (owner : Text)
  | release (permit : CapacityPermit)
  | close
  | wake (call : SubordinateCall) (clock : SubordinateClock)
  /-- The pending section of the thread that holds the lock. -/
  | proceed (clock : SubordinateClock)

/-- The limiter after a section that raised nothing, or as it was. -/
def settled (limiter : SubordinateCallLimiter) :
    Except CapacityError SubordinateCallLimiter → SubordinateCallLimiter
  | .ok next => next
  | .error _ => limiter

/-- A section begins when nobody holds the lock, or is the pending one. -/
def Enabled (limiter : SubordinateCallLimiter) : SubordinateOp → Prop
  | .proceed _ => limiter.pending ≠ none
  | .wake call _ => limiter.pending = none ∧ call ∈ limiter.parked
  | _ => limiter.pending = none

/-- The limiter and its coordinator after the pending section. -/
def proceed (limiter : SubordinateCallLimiter)
    (parent : ScheduledWorkLimiters) (clock : SubordinateClock) :
    PendingSection → SubordinateCallLimiter × ScheduledWorkLimiters
  | .asking owner deadline =>
      ((limiter.proceedAcquire (parent.parentHolds owner) owner deadline
        clock).2, parent)
  | .trying owner =>
      ((limiter.proceedTry (parent.parentHolds owner) owner
        clock.rating).2, parent)
  | .registering permit => (limiter.register parent permit).2
  | .unregistering permit => (limiter.unregister parent permit).2

/-- The limiter and its coordinator after one section. -/
def perform (limiter : SubordinateCallLimiter)
    (parent : ScheduledWorkLimiters) :
    SubordinateOp → SubordinateCallLimiter × ScheduledWorkLimiters
  | .acquire owner triple deadline =>
      (limiter.settled (limiter.acquire owner triple deadline), parent)
  | .tryAcquire owner =>
      (limiter.settled (limiter.tryAcquire owner), parent)
  | .release permit => (limiter.settled (limiter.release permit), parent)
  | .close => (limiter.close, parent)
  | .wake call clock =>
      ((limiter.resume call.owner (some call.deadline) clock).2, parent)
  | .proceed clock =>
      match limiter.pending with
      | none => (limiter, parent)
      | some next => limiter.proceed parent clock next

/-- The owner of a permit that is being released holds a slot. -/
structure Sound (limiter : SubordinateCallLimiter) : Prop extends
    limiter.Kept where
  releasing : ∀ permit, limiter.pending = some (.unregistering permit) →
    limiter.ledger.holds permit.owner

theorem grantChecked_pending (limiter : SubordinateCallLimiter)
    (owner : Text) (deadline : Option Instant) (rating : Reading)
    (permit : CapacityPermit) :
    (limiter.grantChecked owner deadline rating).2.pending ≠
      some (.unregistering permit) := by
  simp only [grantChecked]
  split
  · simp [grant]
  · split
    · simp [unlock]
    · split <;> simp [unlock, grant]

theorem resume_pending (limiter : SubordinateCallLimiter) (owner : Text)
    (deadline : Option Instant) (clock : SubordinateClock)
    (permit : CapacityPermit) :
    (limiter.resume owner deadline clock).2.pending ≠
      some (.unregistering permit) := by
  simp only [resume]
  split
  · simp [unlock]
  · exact grantChecked_pending limiter owner deadline clock.rating permit
  · simp [unlock]

theorem Sound.proceed (sound : limiter.Sound) {parent : ScheduledWorkLimiters}
    (coordinated : parent.Coordinated) (clock : SubordinateClock)
    {next : PendingSection} (pending : limiter.pending = some next) :
    (limiter.proceed parent clock next).1.Sound ∧
      (limiter.proceed parent clock next).2.Coordinated := by
  have kept := sound.toKept
  have unlocked {after : SubordinateCallLimiter} (kept : after.Kept)
      (free : after.pending = none) : after.Sound :=
    { kept with releasing := fun permit same => by simp [free] at same }
  cases next with
  | asking owner deadline =>
      refine ⟨{ kept.proceedAcquire _ owner deadline clock with
        releasing := fun permit same => absurd same ?_ }, coordinated⟩
      simp only [SubordinateCallLimiter.proceed,
        SubordinateCallLimiter.proceedAcquire]
      split
      · simp [unlock]
      · exact resume_pending _ owner deadline clock permit
  | trying owner =>
      refine ⟨{ kept.proceedTry _ owner clock.rating with
        releasing := fun permit same => absurd same ?_ }, coordinated⟩
      simp only [SubordinateCallLimiter.proceed,
        SubordinateCallLimiter.proceedTry]
      split
      · simp [unlock]
      · split
        · simp [unlock]
        · split
          · simp [grant]
          · split
            · simp [unlock]
            · split <;> simp [unlock, grant]
  | registering permit =>
      simp only [SubordinateCallLimiter.proceed, register]
      split
      next registered returned =>
        exact ⟨unlocked kept.unlock rfl,
          coordinated.registerSubordinate returned⟩
      · exact ⟨unlocked (kept.ungrant _).notifyAll.unlock rfl, coordinated⟩
  | unregistering permit =>
      simp only [SubordinateCallLimiter.proceed, unregister]
      split
      · exact ⟨unlocked kept.unlock rfl, coordinated⟩
      next unregistered returned =>
        have held := sound.releasing permit pending
        have absent : permit.owner ∉ limiter.ledger.waiters := by
          rw [kept.queue]
          intro inside
          obtain ⟨call, member, same⟩ := List.mem_map.mp inside
          exact kept.idle call member (same ▸ held)
        have released : limiter.ledger.release permit.owner =
            limiter.ledger.ungrant permit.owner := by
          simp only [Ledger.release, Ledger.dequeue, Ledger.ungrant_waiters,
            List.erase_of_not_mem absent]
          rw [← Ledger.ungrant_waiters limiter.ledger permit.owner]
        rw [released]
        exact ⟨unlocked (kept.ungrant permit.owner).notifyAll.unlock rfl,
          coordinated.unregisterSubordinate returned⟩

/-- Every section keeps the limiter and its coordinator sound. -/
theorem Sound.perform (sound : limiter.Sound)
    {parent : ScheduledWorkLimiters} (coordinated : parent.Coordinated)
    {op : SubordinateOp} (enabled : limiter.Enabled op) :
    (limiter.perform parent op).1.Sound ∧
      (limiter.perform parent op).2.Coordinated := by
  have settles {result : Except CapacityError SubordinateCallLimiter}
      (sounds : ∀ next, result = .ok next → next.Sound) :
      (limiter.settled result).Sound := by
    cases result with
    | ok next => exact sounds next rfl
    | error _ => exact sound
  cases op with
  | acquire owner triple deadline =>
      refine ⟨settles fun next returned => ?_, coordinated⟩
      simp only [SubordinateCallLimiter.acquire, bind_eq_ok] at returned
      obtain ⟨_, _, _, _, _, _, same⟩ := returned
      cases same
      exact { sound with releasing := fun permit same => by simp at same }
  | tryAcquire owner =>
      refine ⟨settles fun next returned => ?_, coordinated⟩
      simp only [SubordinateCallLimiter.tryAcquire, bind_eq_ok] at returned
      obtain ⟨_, _, _, _, same⟩ := returned
      cases same
      exact { sound with releasing := fun permit same => by simp at same }
  | release permit =>
      refine ⟨settles fun next returned => ?_, coordinated⟩
      simp only [SubordinateCallLimiter.release, bind_eq_ok, require_eq_ok,
        decide_eq_true_eq] at returned
      obtain ⟨_, _, _, held, same⟩ := returned
      cases same
      refine { sound with releasing := fun other same => ?_ }
      cases same
      simp [Ledger.holds, held]
  | close =>
      refine ⟨?_, coordinated⟩
      simp only [SubordinateCallLimiter.perform, close]
      split
      · exact sound
      · have closed : { limiter with closed := true }.Kept :=
          { sound.toKept with }
        exact { closed.notifyAll with releasing := sound.releasing }
  | wake call clock =>
      obtain ⟨free, member⟩ := enabled
      refine ⟨{ Kept.resume (sound.toKept.park ⟨call, member, rfl⟩) clock with
        releasing := fun permit same => absurd same
          (resume_pending limiter call.owner _ clock permit) }, coordinated⟩
  | proceed clock =>
      simp only [SubordinateCallLimiter.perform]
      split
      · exact ⟨sound, coordinated⟩
      next next pending => exact sound.proceed coordinated clock pending

theorem create_sound {category : Category} {limit : Nat}
    {rate : Option RateLimitPolicy}
    (created : create category limit rate = .ok limiter) :
    limiter.Sound := by
  simp only [create, bind_eq_ok] at created
  obtain ⟨_, _, _, _, same⟩ := created
  cases same
  exact
    { balanced := Ledger.new_balanced category limit
      apart := List.nodup_nil
      queue := rfl
      idle := fun call member => absurd member List.not_mem_nil
      releasing := fun permit same => by cases same }

/-! ## What a section of a limiter leaves alone -/

@[simp]
theorem leave_limit (limiter : SubordinateCallLimiter) (owner : Text) :
    (limiter.leave owner).ledger.limit = limiter.ledger.limit := rfl

@[simp]
theorem unlock_limit (limiter : SubordinateCallLimiter) :
    limiter.unlock.ledger.limit = limiter.ledger.limit := rfl

@[simp]
theorem notifyAll_limit (limiter : SubordinateCallLimiter) :
    limiter.notifyAll.ledger.limit = limiter.ledger.limit := rfl

@[simp]
theorem park_limit (limiter : SubordinateCallLimiter)
    (call : SubordinateCall) :
    (limiter.park call).ledger.limit = limiter.ledger.limit := rfl

@[simp]
theorem grant_limit (limiter : SubordinateCallLimiter) (owner : Text) :
    (limiter.grant owner).ledger.limit = limiter.ledger.limit := rfl

@[simp]
theorem ungrant_limit (limiter : SubordinateCallLimiter) (owner : Text) :
    (limiter.ungrant owner).ledger.limit = limiter.ledger.limit :=
  Ledger.ungrant_limit limiter.ledger owner

theorem resume_limit (limiter : SubordinateCallLimiter) (owner : Text)
    (deadline : Option Instant) (clock : SubordinateClock) :
    (limiter.resume owner deadline clock).2.ledger.limit =
      limiter.ledger.limit := by
  have granted : (limiter.grantChecked owner deadline clock.rating).2.ledger.limit =
      limiter.ledger.limit := by
    simp only [grantChecked]
    split
    · rfl
    · split
      · rfl
      · split
        · rfl
        · rfl
        · simp
  simp only [resume]
  split
  · rfl
  · exact granted
  · rfl

theorem proceedTry_limit (limiter : SubordinateCallLimiter)
    (holds : Except CapacityError Bool) (owner : Text) (rating : Reading) :
    (limiter.proceedTry holds owner rating).2.ledger.limit =
      limiter.ledger.limit := by
  simp only [proceedTry]
  split
  · rfl
  · split
    · rfl
    · split
      · rfl
      · split
        · rfl
        · split <;> rfl

theorem proceed_limit (limiter : SubordinateCallLimiter)
    (parent : ScheduledWorkLimiters) (clock : SubordinateClock)
    (next : PendingSection) :
    (limiter.proceed parent clock next).1.ledger.limit =
      limiter.ledger.limit := by
  cases next with
  | asking owner deadline =>
      simp only [SubordinateCallLimiter.proceed, proceedAcquire]
      split
      · rfl
      · exact resume_limit _ owner deadline clock
  | trying owner => exact proceedTry_limit limiter _ owner clock.rating
  | registering permit =>
      simp only [SubordinateCallLimiter.proceed, register]
      split
      · rfl
      · simp
  | unregistering permit =>
      simp only [SubordinateCallLimiter.proceed, unregister]
      split
      · rfl
      · exact Ledger.ungrant_limit _ permit.owner

theorem perform_limit (limiter : SubordinateCallLimiter)
    (parent : ScheduledWorkLimiters) (op : SubordinateOp) :
    (limiter.perform parent op).1.ledger.limit = limiter.ledger.limit := by
  have settles {result : Except CapacityError SubordinateCallLimiter}
      (limits : ∀ next, result = .ok next →
        next.ledger.limit = limiter.ledger.limit) :
      (limiter.settled result).ledger.limit = limiter.ledger.limit := by
    cases result with
    | ok next => exact limits next rfl
    | error _ => rfl
  cases op with
  | acquire owner triple deadline =>
      refine settles fun next returned => ?_
      simp only [SubordinateCallLimiter.acquire, bind_eq_ok] at returned
      obtain ⟨_, _, _, _, _, _, same⟩ := returned
      cases same
      rfl
  | tryAcquire owner =>
      refine settles fun next returned => ?_
      simp only [SubordinateCallLimiter.tryAcquire, bind_eq_ok] at returned
      obtain ⟨_, _, _, _, same⟩ := returned
      cases same
      rfl
  | release permit =>
      refine settles fun next returned => ?_
      simp only [SubordinateCallLimiter.release, bind_eq_ok] at returned
      obtain ⟨_, _, _, _, same⟩ := returned
      cases same
      rfl
  | close =>
      simp only [SubordinateCallLimiter.perform, close]
      split <;> rfl
  | wake call clock => exact resume_limit limiter _ _ clock
  | proceed clock =>
      simp only [SubordinateCallLimiter.perform]
      split
      · rfl
      · exact proceed_limit limiter parent clock _

/-- A limiter only registers and unregisters permits with its coordinator. -/
theorem perform_changes (limiter : SubordinateCallLimiter)
    (parent : ScheduledWorkLimiters) (op : SubordinateOp) :
    (limiter.perform parent op).2.ledger = parent.ledger ∧
      (limiter.perform parent op).2.nodeIds = parent.nodeIds := by
  cases op with
  | proceed clock =>
      simp only [SubordinateCallLimiter.perform]
      split
      · exact ⟨rfl, rfl⟩
      next next _ =>
        cases next with
        | registering permit =>
            simp only [SubordinateCallLimiter.proceed, register]
            split
            next registered returned =>
              simp only [ScheduledWorkLimiters.registerSubordinate,
                bind_eq_ok] at returned
              obtain ⟨_, _, _, _, _, _, _, _, same⟩ := returned
              cases same
              exact ⟨rfl, rfl⟩
            · exact ⟨rfl, rfl⟩
        | unregistering permit =>
            simp only [SubordinateCallLimiter.proceed, unregister]
            split
            · exact ⟨rfl, rfl⟩
            next unregistered returned =>
              simp only [ScheduledWorkLimiters.unregisterSubordinate,
                bind_eq_ok] at returned
              obtain ⟨_, _, _, _, same⟩ := returned
              cases same
              exact ⟨rfl, rfl⟩
        | asking | trying => exact ⟨rfl, rfl⟩
  | _ => exact ⟨rfl, rfl⟩

end SubordinateCallLimiter

/-! ## The system -/

/-- One coordinator and its subordinate limiters. -/
structure CapacityState (ι : Type) where
  scheduled : ScheduledWorkLimiters
  subordinate : ι → SubordinateCallLimiter

/-- One section of the coordinator or of one limiter. -/
inductive CapacityOp (ι : Type) where
  | scheduled (op : ScheduledOp)
  | subordinate (index : ι) (op : SubordinateCallLimiter.SubordinateOp)

/-- What the coordinator and the limiters are built from. -/
structure CapacityPlan (ι : Type) where
  settings : CapturedConcurrencySettings
  strategyId : Text
  nodeIds : List Text
  category : ι → Category
  limit : ι → Nat
  rate : ι → Option RateLimitPolicy

section System

variable {ι : Type} [DecidableEq ι]

/-- The coordinator after one section of anybody. -/
def CapacityState.perform (state : CapacityState ι) :
    CapacityOp ι → CapacityState ι
  | .scheduled op => { state with scheduled := state.scheduled.perform op }
  | .subordinate index op =>
      let after := (state.subordinate index).perform state.scheduled op
      { scheduled := after.2
        subordinate := Function.update state.subordinate index after.1 }

def CapacityState.Enabled (state : CapacityState ι) : CapacityOp ι → Prop
  | .scheduled op => state.scheduled.Enabled op
  | .subordinate index op => (state.subordinate index).Enabled op

/-- Every interleaving of sections from a new coordinator and limiters. -/
def capacitySystem (plan : CapacityPlan ι) :
    TransitionSystem (CapacityState ι) (CapacityOp ι) where
  Initial state :=
    ScheduledWorkLimiters.create plan.settings plan.strategyId
        plan.nodeIds = .ok state.scheduled ∧
      ∀ index, SubordinateCallLimiter.create (plan.category index)
        (plan.limit index) (plan.rate index) =
          .ok (state.subordinate index)
  Step state op next := state.Enabled op ∧ next = state.perform op

/-- Held slots are distinct, not free, and with the free ones `1..limit`. -/
structure Ledger.Accounts (ledger : Ledger) (limit : Nat) : Prop where
  distinct : (ledger.held.map Prod.snd).Nodup
  disjoint : ∀ slot ∈ ledger.held.map Prod.snd, slot ∉ ledger.freeSlots
  total : ∀ slot,
    (slot ∈ ledger.held.map Prod.snd ∨ slot ∈ ledger.freeSlots) ↔
      1 ≤ slot ∧ slot ≤ limit

theorem Ledger.Balanced.accounts {ledger : Ledger} {limit : Nat}
    (balanced : ledger.Balanced) (limited : ledger.limit = limit) :
    ledger.Accounts limit := by
  have slots := balanced.slots
  rw [limited] at slots
  have distinct := slots.nodup_iff.mpr List.nodup_range'
  rw [List.nodup_append] at distinct
  refine ⟨distinct.1, fun slot held free => distinct.2.2 slot held slot free
    rfl, fun slot => ?_⟩
  rw [← List.mem_append, slots.mem_iff, List.mem_range'_1]
  omega

/-- What holds of permits in every state. -/
structure CapacityAccounted (plan : CapacityPlan ι)
    (state : CapacityState ι) : Prop where
  global : (state.scheduled.ledger .global).Accounts
    plan.settings.globalConcurrentWork
  strategy : (state.scheduled.ledger .strategy).Accounts
    plan.settings.perStrategyWork
  node : ∀ node ∈ plan.nodeIds, (state.scheduled.ledger (.node node)).Accounts
    plan.settings.perNodeWork
  subordinate : ∀ index,
    (state.subordinate index).ledger.Accounts (plan.limit index)
  nodeHolders : ∀ node ∈ plan.nodeIds, ∀ owner,
    (state.scheduled.ledger (.node node)).holds owner →
      (state.scheduled.ledger .strategy).holds owner
  strategyHolders : ∀ owner, (state.scheduled.ledger .strategy).holds owner →
    (state.scheduled.ledger .global).holds owner
  oneNode : ∀ node ∈ plan.nodeIds, ∀ other ∈ plan.nodeIds, ∀ owner,
    (state.scheduled.ledger (.node node)).holds owner →
    (state.scheduled.ledger (.node other)).holds owner → node = other
  registered : ∀ owner, ∀ permit ∈ state.scheduled.subordinates owner,
    permit.owner = owner ∧
      (state.scheduled.ledger .global).holds owner ∧
      (state.scheduled.ledger .strategy).holds owner ∧
      ∃ node ∈ plan.nodeIds,
        (state.scheduled.ledger (.node node)).holds owner

/-- The invariant of the whole system. -/
structure CapacityInvariant (plan : CapacityPlan ι)
    (state : CapacityState ι) : Prop where
  coordinated : state.scheduled.Coordinated
  nodeIds : state.scheduled.nodeIds = plan.nodeIds
  limits : ∀ level, (state.scheduled.ledger level).limit =
    (newLedger plan.settings level).limit
  sound : ∀ index, (state.subordinate index).Sound
  subordinateLimits : ∀ index,
    (state.subordinate index).ledger.limit = plan.limit index

variable {plan : CapacityPlan ι} {state : CapacityState ι}

omit [DecidableEq ι] in
theorem CapacityInvariant.accounted (invariant : CapacityInvariant plan state) :
    CapacityAccounted plan state := by
  have coordinated := invariant.coordinated
  refine
    { global := (coordinated.balanced .global).accounts
        (invariant.limits .global)
      strategy := (coordinated.balanced .strategy).accounts
        (invariant.limits .strategy)
      node := fun node _ => (coordinated.balanced (.node node)).accounts
        (invariant.limits (.node node))
      subordinate := fun index => (invariant.sound index).balanced.accounts
        (invariant.subordinateLimits index)
      nodeHolders := fun node _ => coordinated.underStrategy node
      strategyHolders := coordinated.underGlobal
      oneNode := fun node _ other _ => coordinated.oneNode node other
      registered := ?_ }
  intro owner permit member
  have some_ := List.ne_nil_of_mem member
  have holds := coordinated.covered owner some_
  simp only [ScheduledWorkLimiters.holdsAll, Bool.and_eq_true,
    ScheduledWorkLimiters.anyNodeHolds_iff, invariant.nodeIds] at holds
  exact ⟨coordinated.own owner permit member, holds.1.1, holds.1.2, holds.2⟩

/-- No step gives back a slot of an owner with registered permits. -/
def Retains (state next : CapacityState ι) : Prop :=
  ∀ level owner, (state.scheduled.ledger level).holds owner →
    ¬ (next.scheduled.ledger level).holds owner →
    state.scheduled.subordinates owner = []

omit [DecidableEq ι] in
theorem created_ledgers {scheduled : ScheduledWorkLimiters}
    (created : ScheduledWorkLimiters.create plan.settings plan.strategyId
      plan.nodeIds = .ok scheduled) :
    scheduled.ledger = newLedger plan.settings ∧
      scheduled.nodeIds = plan.nodeIds := by
  simp only [ScheduledWorkLimiters.create, bind_eq_ok] at created
  obtain ⟨_, _, _, _, _, _, _, _, same⟩ := created
  cases same
  exact ⟨rfl, rfl⟩

theorem CapacityInvariant.initially
    (initial : (capacitySystem plan).Initial state) :
    CapacityInvariant plan state := by
  obtain ⟨scheduled, subordinate⟩ := initial
  obtain ⟨ledgers, nodeIds⟩ := created_ledgers scheduled
  refine
    { coordinated := ScheduledWorkLimiters.create_coordinated scheduled
      nodeIds := nodeIds, limits := fun level => by rw [ledgers]
      sound := fun index =>
        SubordinateCallLimiter.create_sound (subordinate index)
      subordinateLimits := fun index => ?_ }
  have created := subordinate index
  simp only [SubordinateCallLimiter.create, bind_eq_ok] at created
  obtain ⟨_, _, _, _, same⟩ := created
  exact congrArg (fun limiter => limiter.ledger.limit)
    (Except.ok.inj same).symm

theorem CapacityInvariant.step (invariant : CapacityInvariant plan state)
    {op : CapacityOp ι} (enabled : state.Enabled op) :
    CapacityInvariant plan (state.perform op) ∧
      Retains state (state.perform op) := by
  cases op with
  | scheduled op =>
      have changes := invariant.coordinated.changes op
      refine ⟨{ invariant with
        coordinated := invariant.coordinated.perform enabled
        nodeIds := changes.nodeIds.trans invariant.nodeIds
        limits := fun level =>
          (changes.limit level).trans (invariant.limits level) }, ?_⟩
      exact changes.bare
  | subordinate index op =>
      have changes := (state.subordinate index).perform_changes
        state.scheduled op
      obtain ⟨sound, coordinated⟩ := (invariant.sound index).perform
        invariant.coordinated enabled
      constructor
      · refine
          { coordinated := coordinated
            nodeIds := changes.2.trans invariant.nodeIds
            limits := fun level => ?_, sound := ?_, subordinateLimits := ?_ }
        · show (((state.subordinate index).perform state.scheduled
            op).2.ledger level).limit = _
          rw [changes.1]
          exact invariant.limits level
        · intro other
          simp only [CapacityState.perform]
          by_cases same : other = index
          · subst same
            rw [Function.update_self]
            exact sound
          · rw [Function.update_of_ne same]
            exact invariant.sound other
        · intro other
          simp only [CapacityState.perform]
          by_cases same : other = index
          · subst same
            rw [Function.update_self,
              SubordinateCallLimiter.perform_limit]
            exact invariant.subordinateLimits other
          · rw [Function.update_of_ne same]
            exact invariant.subordinateLimits other
      · intro level owner held gone
        refine absurd ?_ gone
        show (((state.subordinate index).perform state.scheduled
          op).2.ledger level).holds owner
        rw [changes.1]
        exact held

/-- In every interleaving every state accounts for its permits, and no step
releases a scheduled permit under a registered one. -/
theorem capacity_accounted
    (reachable : (capacitySystem plan).Reachable state) :
    CapacityAccounted plan state ∧
      ∀ op next, (capacitySystem plan).Step state op next →
        Retains state next := by
  have invariant : CapacityInvariant plan state := by
    refine reachable.invariant (fun _ => CapacityInvariant.initially) ?_
    rintro before op after _ holds ⟨enabled, rfl⟩
    exact (holds.step enabled).1
  refine ⟨invariant.accounted, ?_⟩
  rintro op next ⟨enabled, rfl⟩
  exact (invariant.step enabled).2

end System

section Sample

def samplePlan : CapacityPlan Unit where
  settings := ⟨2, 2, 1, twoUnits_valid, twoUnits_valid, oneUnit_valid⟩
  strategyId := text "parallel"
  nodeIds := [text "east", text "west"]
  category := fun _ => .connector
  limit := fun _ => 1
  rate := fun _ => none

/-- The new coordinator and limiter. -/
def sampleStart : CapacityState Unit where
  scheduled :=
    { strategyId := samplePlan.strategyId
      nodeIds := samplePlan.nodeIds
      ledger := newLedger samplePlan.settings
      subordinates := fun _ => []
      parked := []
      closed := false }
  subordinate := fun _ =>
    { ledger := .new .connector 1, bucket := none, closed := false,
      parked := [], pending := none }

/-- One work unit holds the whole triple at the first node. -/
def sampleHeld : CapacityState Unit :=
  sampleStart.perform (.scheduled (.acquire (text "unit-1") (text "east")
    none ⟨.ok 0, .ok 0, .ok 0⟩))

theorem sample_reachable :
    (capacitySystem samplePlan).Reachable sampleHeld := by
  have created : ScheduledWorkLimiters.create samplePlan.settings
      samplePlan.strategyId samplePlan.nodeIds = .ok sampleStart.scheduled := by
    simp only [ScheduledWorkLimiters.create, bind_eq_ok]
    exact ⟨(), by decide, (), by decide, (),
      by decide, (), by decide, rfl⟩
  have initial : (capacitySystem samplePlan).Initial sampleStart :=
    ⟨created, fun _ => rfl⟩
  have enabled : sampleStart.Enabled (.scheduled (.acquire (text "unit-1")
      (text "east") none ⟨.ok 0, .ok 0, .ok 0⟩)) := trivial
  exact .step (.initial initial) ⟨enabled, rfl⟩

theorem capacity_accounted_sample :
    (sampleHeld.scheduled.ledger (.node (text "east"))).holds
        (text "unit-1") = true ∧
      CapacityAccounted samplePlan sampleHeld ∧
      ∀ op next, (capacitySystem samplePlan).Step sampleHeld op next →
        Retains sampleHeld next :=
  ⟨by decide, capacity_accounted sample_reachable⟩

end Sample

end ParityGrid.Application
