import ParityGrid.Application.Execution.SchedulerInvariant

/-!
# Runs of a scheduler

An inversion lemma for each operation says what a successful call found and
what it left; from these, every successful operation preserves the scheduler
invariant, and so does restoring a frontier that the scheduler showed before.
-/

namespace ParityGrid.Application

open ParityGrid.Foundation

namespace ConcurrentScheduler

/-! ## What a successful operation found and left -/

variable {scheduler next : ConcurrentScheduler} {identity : WorkIdentity}

theorem registerAdmission_ok {fence : Int} {u : Unit}
    (answered : scheduler.registerAdmission identity fence = (.ok u, next)) :
    (1 ≤ fence ∧ fence ≤ maxFrontierLeaseFence) ∧
      scheduler.states identity = some .ready ∧
      scheduler.controlState = .running ∧
      next = { scheduler with
        states := Function.update scheduler.states identity (some .admitted)
        fences := Function.update scheduler.fences identity (some fence) } := by
  unfold registerAdmission at answered
  split at answered
  · cases answered
  next range =>
    split at answered
    · cases answered
    next state found =>
      split at answered
      · cases answered
      · split at answered
        · cases answered
        next ready =>
          split at answered
          · cases answered
          next running =>
            cases answered
            exact ⟨not_not.mp range, by rw [found, not_not.mp ready],
              not_not.mp running, rfl⟩

theorem markResultReceived_ok {u : Unit}
    (answered : scheduler.markResultReceived identity = (.ok u, next)) :
    scheduler.states identity = some .admitted ∧
      next = { scheduler with
        states := Function.update scheduler.states identity
          (some .awaitingCommit) } := by
  unfold markResultReceived at answered
  split at answered
  · cases answered
  next state found =>
    split at answered
    · cases answered
    next admitted =>
      cases answered
      exact ⟨by rw [found, not_not.mp admitted], rfl⟩

/-- Work that left its flight with a terminal outcome. -/
def settled (scheduler : ConcurrentScheduler) (identity : WorkIdentity)
    (terminal : FrontierWorkState) : ConcurrentScheduler :=
  { scheduler with
    states := Function.update scheduler.states identity (some terminal)
    fences := Function.update scheduler.fences identity none }

theorem settled_states (scheduler : ConcurrentScheduler)
    (identity : WorkIdentity) (terminal : FrontierWorkState)
    (other : WorkIdentity) :
    (scheduler.settled identity terminal).states other =
      if other = identity then some terminal
      else scheduler.states other := by
  simp only [settled, Function.update_apply]

/-- Work that has a state may be given another one. -/
theorem Tracked.moved (holds : Tracked scheduler) (identity : WorkIdentity)
    (found : (scheduler.states identity).isSome) (plan : next.plan = scheduler.plan)
    (elsewhere : ∀ other, other ≠ identity →
      next.states other = scheduler.states other)
    (here : (next.states identity).isSome) : Tracked next := by
  refine ⟨plan ▸ holds.plan, fun other => ?_⟩
  rw [plan, ← holds.known]
  by_cases same : other = identity
  · subst same
    exact iff_of_true here found
  · rw [elsewhere other same]

theorem Tracked.updated (holds : Tracked scheduler)
    {state : FrontierWorkState}
    (found : scheduler.states identity = some state)
    {target : FrontierWorkState} (plan : next.plan = scheduler.plan)
    (moves : next.states =
      Function.update scheduler.states identity (some target)) :
    Tracked next := by
  apply holds.moved identity (by simp [found]) plan
  · intro other apart
    rw [moves, Function.update_of_ne apart]
  · rw [moves, Function.update_self]
    rfl

/-- Settling leaves every work of the plan with a state. -/
theorem Tracked.settled (holds : Tracked scheduler)
    {state : FrontierWorkState}
    (found : scheduler.states identity = some state)
    (terminal : FrontierWorkState) :
    Tracked (scheduler.settled identity terminal) :=
  holds.updated found rfl rfl

theorem commitResult_ok {outcome : Text} {u : Unit}
    (answered : scheduler.commitResult identity outcome = (.ok u, next)) :
    ∃ terminal state, FrontierWorkState.parse outcome = some terminal ∧
      terminal.isTerminal ∧ scheduler.states identity = some state ∧
      state.isInFlight ∧
      (scheduler.settled identity terminal).releaseSuccessors
        identity.nodeId = (.ok u, next) := by
  unfold commitResult at answered
  split at answered
  · cases answered
  next terminal parsed =>
    split at answered
    · cases answered
    next isTerminal =>
      split at answered
      · cases answered
      next state found =>
        split at answered
        · cases answered
        next inFlight =>
          exact ⟨terminal, state, parsed, by simpa using isTerminal, found,
            by simpa using inFlight, answered⟩

theorem scheduleRetry_ok {eligible : Int} {reason : Text} {u : Unit}
    (answered : scheduler.scheduleRetry identity eligible reason =
      (.ok u, next)) :
    ∃ state wait, scheduler.states identity = some state ∧
      state.isInFlight ∧
      FrontierRetryWait.create identity eligible reason = .ok wait ∧
      next = { scheduler with
        states := Function.update scheduler.states identity (some .retryWait)
        fences := Function.update scheduler.fences identity none
        retryWaits := Function.update scheduler.retryWaits identity
          (some wait) } := by
  unfold scheduleRetry at answered
  split at answered
  · cases answered
  · split at answered
    · cases answered
    · split at answered
      · cases answered
      next state found =>
        split at answered
        · cases answered
        next inFlight =>
          dsimp only at answered
          split at answered
          · cases answered
          next wait created =>
            cases answered
            exact ⟨state, wait, found, by simpa using inFlight, created, rfl⟩

theorem retryEligible_ok {now : Int} {due : List WorkIdentity}
    (answered : scheduler.retryEligible now = (.ok due, next)) :
    due = scheduler.due now ∧ next = { scheduler with
      states := fun identity =>
        if identity ∈ due then some .ready else scheduler.states identity
      retryWaits := fun identity =>
        if identity ∈ due then none
        else scheduler.retryWaits identity } := by
  unfold retryEligible at answered
  split at answered
  · cases answered
  · cases answered
    exact ⟨rfl, rfl⟩

theorem advance_ok {expected target : ContractLifecycleState}
    {action : String} {generation : ControlGeneration}
    (answered : scheduler.advance expected target action =
      (.ok generation, next)) :
    scheduler.controlState = expected ∧
      generation.value = scheduler.controlGeneration.value + 1 ∧
      next = { scheduler with
        controlState := target
        controlGeneration := generation } := by
  unfold advance at answered
  split at answered
  · cases answered
  next advanced =>
    cases answered
    obtain ⟨required, granted⟩ := check_bind_eq_ok.mp advanced
    rw [requireControl, require_eq_ok, decide_eq_true_eq] at required
    unfold nextGeneration at granted
    split at granted
    · cases granted
      exact ⟨required, rfl, rfl⟩
    · cases granted

theorem switch_ok {expected target : ContractLifecycleState}
    {action : String} {u : Unit}
    (answered : scheduler.switch expected target action = (.ok u, next)) :
    scheduler.controlState = expected ∧
      next = { scheduler with controlState := target } := by
  unfold switch at answered
  split at answered
  · cases answered
  next required =>
    cases answered
    rw [requireControl, require_eq_ok, decide_eq_true_eq] at required
    exact ⟨required, rfl⟩

theorem markRecoveryRequired_ok {reason : Text} {u : Unit}
    (answered : scheduler.markRecoveryRequired reason = (.ok u, next)) :
    isPlainText maxFrontierReasonLength reason ∧
      scheduler.controlState ∈ [ContractLifecycleState.running, .quiescing,
        .paused, .cancelling] ∧
      next = { scheduler with
        controlState := .recoveryRequired
        recoveryReason := some reason } := by
  unfold markRecoveryRequired at answered
  split at answered
  · cases answered
  next described =>
    rw [requireReasonText, requirePlainText_eq_ok] at described
    split at answered
    next active =>
      cases answered
      exact ⟨described, active, rfl⟩
    · cases answered

theorem restore_ok {frontier : SchedulerFrontierV2} {u : Unit}
    (answered : scheduler.restore frontier = (.ok u, next)) :
    scheduler.checkRestored frontier = .ok () ∧
      next = { scheduler with
        states := fun identity => frontier.workStates.lookup identity
        fences := fun identity => frontier.leaseFences.lookup identity
        retryWaits := fun identity =>
          frontier.retryWaits.find? fun wait => wait.identity = identity
        controlState := frontier.controlState
        controlGeneration := frontier.controlGeneration
        recoveryReason := frontier.recoveryRequiredReason } := by
  unfold restore at answered
  split at answered
  · cases answered
  next checked =>
    cases answered
    exact ⟨checked, rfl⟩

/-! ## Every operation preserves the invariant -/

theorem barrier_congr {left right : ConcurrentScheduler}
    (plan : left.plan = right.plan)
    (succeeded : ∀ identity, left.states identity = some .succeeded ↔
      right.states identity = some .succeeded)
    (blocked : ∀ identity, left.states identity = some .blocked ↔
      right.states identity = some .blocked)
    (barrier : ∀ identity ∈ right.plan.identities,
      right.states identity = some .blocked ↔
        ¬ right.Permits identity.nodeId) :
    ∀ identity ∈ left.plan.identities,
      left.states identity = some .blocked ↔
        ¬ left.Permits identity.nodeId := by
  intro identity inPlan
  rw [blocked, Permits.congr plan succeeded]
  exact barrier identity (plan ▸ inPlan)

namespace SchedulerInvariant

theorem start {plan : SchedulerPlan} (coherent : plan.Coherent)
    (generation : ControlGeneration) :
    SchedulerInvariant (plan.start generation) where
  plan := coherent
  known identity := by
    simp only [SchedulerPlan.start]
    split <;> simp [*]
  flight identity := by
    simp only [SchedulerPlan.start, Option.isSome_none, Bool.false_eq_true,
      false_iff, not_exists]
    rintro state ⟨found, inFlight⟩
    split at found
    · split at found
      all_goals
        cases found
        cases inFlight
    · cases found
  fences := by simp [SchedulerPlan.start]
  waits identity := by
    simp only [SchedulerPlan.start, Option.isSome_none, Bool.false_eq_true,
      false_iff]
    intro found
    split at found
    · split at found
      all_goals cases found
    · cases found
  owned := by simp [SchedulerPlan.start]
  barrier identity inPlan := by
    have inPlan : identity ∈ plan.identities := inPlan
    simp only [SchedulerPlan.start, if_pos inPlan, Option.some.injEq]
    by_cases root : plan.predecessors identity.nodeId = []
    · rw [if_pos root]
      simp only [reduceCtorEq, false_iff, not_not]
      intro source edge
      have member := SchedulerPlan.mem_predecessors.mpr edge
      rw [root] at member
      cases member
    · rw [if_neg root]
      simp only [true_iff]
      intro permitted
      obtain ⟨source, member⟩ := List.exists_mem_of_ne_nil _ root
      have edge := SchedulerPlan.mem_predecessors.mp member
      obtain ⟨other, known, here⟩ :=
        coherent.node_work (coherent.spans _ edge).1
      have succeeded : (if other ∈ plan.identities then
          some (if plan.predecessors other.nodeId = [] then
            FrontierWorkState.ready else .blocked)
        else none) = some .succeeded := permitted source edge other known here
      rw [if_pos known, Option.some.injEq] at succeeded
      split at succeeded
      all_goals cases succeeded
  control := by simp [ControlHolds, SchedulerPlan.start,
    ContractLifecycleState.isDurable]

end SchedulerInvariant

/-- One work identity, moved to a state with what that state holds. -/
def placed (scheduler : ConcurrentScheduler) (identity : WorkIdentity)
    (state : FrontierWorkState) (fence : Option Int)
    (wait : Option FrontierRetryWait) : ConcurrentScheduler :=
  { scheduler with
    states := Function.update scheduler.states identity (some state)
    fences := Function.update scheduler.fences identity fence
    retryWaits := Function.update scheduler.retryWaits identity wait }

section Placed

variable (scheduler : ConcurrentScheduler) (identity : WorkIdentity)
  (state : FrontierWorkState) (fence : Option Int)
  (wait : Option FrontierRetryWait)

theorem placed_states (other : WorkIdentity) :
    (scheduler.placed identity state fence wait).states other =
      if other = identity then some state else scheduler.states other := by
  simp only [placed, Function.update_apply]

theorem placed_fences (other : WorkIdentity) :
    (scheduler.placed identity state fence wait).fences other =
      if other = identity then fence else scheduler.fences other := by
  simp only [placed, Function.update_apply]

theorem placed_retryWaits (other : WorkIdentity) :
    (scheduler.placed identity state fence wait).retryWaits other =
      if other = identity then wait else scheduler.retryWaits other := by
  simp only [placed, Function.update_apply]

end Placed

/-- Work may move to any state together with what that state holds. -/
theorem Holdings.placed (holds : Holdings scheduler)
    {before : FrontierWorkState} (state : FrontierWorkState)
    (fence : Option Int) (wait : Option FrontierRetryWait)
    (found : scheduler.states identity = some before)
    (fenced : fence.isSome ↔ state.isInFlight)
    (range : ∀ held ∈ fence, 1 ≤ held ∧ held ≤ maxFrontierLeaseFence)
    (waits : wait.isSome ↔ state = .retryWait)
    (owned : ∀ held ∈ wait, held.identity = identity) :
    Holdings (scheduler.placed identity state fence wait) := by
  constructor
  case toTracked =>
    refine ⟨holds.plan, fun other => ?_⟩
    rw [placed_states]
    by_cases same : other = identity
    · rw [if_pos same, same]
      have inPlan := (holds.known identity).mp (by simp [found])
      exact iff_of_true rfl inPlan
    · rw [if_neg same]
      exact holds.known other
  case flight =>
    intro other
    rw [placed_states, placed_fences]
    by_cases same : other = identity
    · rw [if_pos same, if_pos same, fenced]
      simp
    · rw [if_neg same, if_neg same]
      exact holds.flight other
  case fences =>
    intro other held present
    rw [placed_fences] at present
    by_cases same : other = identity
    · rw [if_pos same] at present
      exact range held present
    · rw [if_neg same] at present
      exact holds.fences other held present
  case waits =>
    intro other
    rw [placed_states, placed_retryWaits]
    by_cases same : other = identity
    · rw [if_pos same, if_pos same, waits]
      simp
    · rw [if_neg same, if_neg same]
      exact holds.waits other
  case owned =>
    intro other held present
    rw [placed_retryWaits] at present
    by_cases same : other = identity
    · rw [if_pos same] at present
      rw [same]
      exact owned held present
    · rw [if_neg same] at present
      exact holds.owned other held present
  case control => exact holds.control

namespace SchedulerInvariant

/-- Moving work that is neither blocked nor done moves no barrier. -/
theorem placed (holds : SchedulerInvariant scheduler)
    {before : FrontierWorkState} (state : FrontierWorkState)
    (fence : Option Int) (wait : Option FrontierRetryWait)
    (found : scheduler.states identity = some before)
    (active : before ∉ [.blocked, .succeeded] ∧ state ∉ [.blocked, .succeeded])
    (fenced : fence.isSome ↔ state.isInFlight)
    (range : ∀ held ∈ fence, 1 ≤ held ∧ held ≤ maxFrontierLeaseFence)
    (waits : wait.isSome ↔ state = .retryWait)
    (owned : ∀ held ∈ wait, held.identity = identity) :
    SchedulerInvariant (scheduler.placed identity state fence wait) := by
  refine ⟨holds.toHoldings.placed state fence wait found fenced range waits
    owned, ?_⟩
  have untouched : ∀ passive ∈ [FrontierWorkState.blocked, .succeeded],
      ∀ other, (scheduler.placed identity state fence wait).states other =
        some passive ↔ scheduler.states other = some passive := by
    intro passive member other
    rw [placed_states]
    by_cases same : other = identity
    · rw [if_pos same, same, found, Option.some.injEq, Option.some.injEq]
      constructor
      · intro equal
        exact absurd (equal ▸ member) active.2
      · intro equal
        exact absurd (equal ▸ member) active.1
    · rw [if_neg same]
  exact @barrier_congr _ scheduler rfl (untouched .succeeded (by simp))
    (untouched .blocked (by simp)) holds.barrier

theorem wait_none (holds : SchedulerInvariant scheduler)
    {state : FrontierWorkState}
    (found : scheduler.states identity = some state)
    (other : state ≠ .retryWait) :
    scheduler.retryWaits identity = none := by
  rw [← Option.not_isSome_iff_eq_none, holds.waits, found]
  exact fun same => other (Option.some.inj same)

theorem registerAdmission (holds : SchedulerInvariant scheduler) {fence : Int}
    {u : Unit}
    (answered : scheduler.registerAdmission identity fence = (.ok u, next)) :
    SchedulerInvariant next := by
  obtain ⟨range, ready, _, rfl⟩ := registerAdmission_ok answered
  have moved := holds.placed .admitted (some fence) none ready (by simp)
    (by simp [FrontierWorkState.isInFlight]) (by simpa using range) (by simp)
    (by simp)
  rw [ConcurrentScheduler.placed, ← holds.wait_none ready (by simp),
    Function.update_eq_self] at moved
  exact moved

theorem markResultReceived (holds : SchedulerInvariant scheduler) {u : Unit}
    (answered : scheduler.markResultReceived identity = (.ok u, next)) :
    SchedulerInvariant next := by
  obtain ⟨admitted, rfl⟩ := markResultReceived_ok answered
  have fenced : (scheduler.fences identity).isSome :=
    (holds.flight identity).mpr ⟨_, admitted, rfl⟩
  have moved := holds.placed .awaitingCommit (scheduler.fences identity) none
    admitted (by simp) (by simp [FrontierWorkState.isInFlight, fenced])
    (fun held => holds.fences identity held) (by simp) (by simp)
  rw [ConcurrentScheduler.placed, ← holds.wait_none admitted (by simp),
    Function.update_eq_self, Function.update_eq_self] at moved
  exact moved

theorem inFlight_active {state : FrontierWorkState}
    (inFlight : state.isInFlight) :
    state ∉ [FrontierWorkState.blocked, .succeeded] := by
  cases state <;> simp_all [FrontierWorkState.isInFlight]

theorem scheduleRetry (holds : SchedulerInvariant scheduler) {eligible : Int}
    {reason : Text} {u : Unit}
    (answered : scheduler.scheduleRetry identity eligible reason =
      (.ok u, next)) :
    SchedulerInvariant next := by
  obtain ⟨state, wait, found, inFlight, created, rfl⟩ :=
    scheduleRetry_ok answered
  exact holds.placed .retryWait none (some wait) found
    ⟨inFlight_active inFlight, by simp⟩
    (by simp [FrontierWorkState.isInFlight]) (by simp) (by simp)
    (by simpa using (FrontierRetryWait.create_eq_ok.mp created).1)

/-- Settling work in flight opens barriers and closes none. -/
theorem permits_settled {terminal state : FrontierWorkState}
    (found : scheduler.states identity = some state)
    (inFlight : state.isInFlight) {node : Text}
    (permitted : scheduler.Permits node) :
    (scheduler.settled identity terminal).Permits node := by
  intro source edge other inPlan here
  have succeeded := permitted source edge other inPlan here
  have apart : other ≠ identity := by
    rintro rfl
    rw [found, Option.some.injEq] at succeeded
    exact inFlight_active inFlight (by simp [succeeded])
  rw [settled_states, if_neg apart]
  exact succeeded

/-- Only nodes behind the settled work can find their barrier opened. -/
theorem permits_of_settled {terminal : FrontierWorkState} {node : Text}
    (apart : (identity.nodeId, node) ∉ scheduler.plan.edges)
    (permitted : (scheduler.settled identity terminal).Permits node) :
    scheduler.Permits node := by
  intro source edge other inPlan here
  have succeeded := permitted source edge other inPlan here
  have different : other ≠ identity := by
    rintro rfl
    exact apart (here ▸ edge)
  rw [settled_states, if_neg different] at succeeded
  exact succeeded

/-- A commit settles work in flight and releases what it unblocked. -/
theorem commitResult_released (holds : SchedulerInvariant scheduler)
    {outcome : Text} {u : Unit}
    (answered : scheduler.commitResult identity outcome = (.ok u, next)) :
    ∃ terminal state, FrontierWorkState.parse outcome = some terminal ∧
      terminal.isTerminal ∧ scheduler.states identity = some state ∧
      state.isInFlight ∧ ReleasedFrom (scheduler.settled identity terminal)
        (scheduler.plan.successors identity.nodeId) next := by
  obtain ⟨terminal, state, parsed, isTerminal, found, inFlight, looped⟩ :=
    commitResult_ok answered
  obtain ⟨released, same, moved⟩ :=
    (holds.toTracked.settled found terminal).releaseEach
      (scheduler.plan.successors identity.nodeId)
  have reached : released = next :=
    (Prod.mk.inj (same.symm.trans looped)).2
  rw [reached] at moved
  exact ⟨terminal, state, parsed, isTerminal, found, inFlight, moved⟩

/-- Work in flight settles, and its successors are released. -/
theorem commitResult (holds : SchedulerInvariant scheduler) {outcome : Text}
    {u : Unit}
    (answered : scheduler.commitResult identity outcome = (.ok u, next)) :
    SchedulerInvariant next := by
  obtain ⟨terminal, state, _, isTerminal, found, inFlight, moved⟩ :=
    holds.commitResult_released answered
  have grounded : terminal.isInFlight = false := by
    cases terminal <;> simp_all [FrontierWorkState.isTerminal,
      FrontierWorkState.isInFlight]
  have notBlocked : terminal ≠ .blocked := by
    rintro rfl
    cases isTerminal
  have notWaiting : terminal ≠ .retryWait := by
    rintro rfl
    cases isTerminal
  have waiting : state ≠ .retryWait := by
    rintro rfl
    cases inFlight
  have middle : Holdings (scheduler.settled identity terminal) := by
    have moved := holds.toHoldings.placed terminal none none found
      (by simp [grounded]) (by simp) (by simp [notWaiting]) (by simp)
    rw [ConcurrentScheduler.placed, ← holds.wait_none found waiting,
      Function.update_eq_self] at moved
    exact moved
  refine ⟨moved.holdings middle, ?_⟩
  intro other inPlan
  rw [moved.plan] at inPlan
  rw [moved.permits]
  by_cases self : other = identity
  · -- The settled work was in flight, so its own barrier is open.
    subst self
    have kept := moved.kept other (by
      simp [settled_states, notBlocked])
    rw [kept, settled_states, if_pos rfl, Option.some.injEq]
    refine iff_of_false notBlocked (not_not.mpr ?_)
    apply permits_settled found inFlight
    by_contra closed
    have blocked := (holds.barrier other inPlan).mpr closed
    rw [found, Option.some.injEq] at blocked
    exact inFlight_active inFlight (by simp [blocked])
  · have unsettled : (scheduler.settled identity terminal).states other =
        scheduler.states other := by
      rw [settled_states, if_neg self]
    by_cases blocked : scheduler.states other = some .blocked
    · by_cases opens : (scheduler.settled identity terminal).Permits
          other.nodeId
      · -- Blocked work whose barrier has opened is behind the settled work.
        have edge : (identity.nodeId, other.nodeId) ∈ scheduler.plan.edges := by
          by_contra apart
          exact (holds.barrier other inPlan).mp blocked
            (permits_of_settled apart opens)
        rw [moved.released other (unsettled.trans blocked)
          (SchedulerPlan.mem_successors.mpr
            ⟨(holds.plan.spans _ edge).2, edge⟩) opens]
        simp [opens]
      · rw [moved.kept other (by simp [opens]), unsettled, blocked]
        simp [opens]
    · rw [moved.kept other (by simp [unsettled, blocked]), unsettled]
      refine iff_of_false blocked (not_not.mpr ?_)
      apply permits_settled found inFlight
      by_contra closed
      exact blocked ((holds.barrier other inPlan).mpr closed)

theorem waiting_of_due (holds : SchedulerInvariant scheduler) {now : Int}
    (isDue : identity ∈ scheduler.due now) :
    scheduler.states identity = some .retryWait := by
  have test := (List.mem_filter.mp (mem_sortedBy.mp isDue)).2
  apply (holds.waits identity).mp
  cases wait : scheduler.retryWaits identity with
  | none => simp [wait] at test
  | some held => rfl

theorem retryEligible (holds : SchedulerInvariant scheduler) {now : Int}
    {due : List WorkIdentity}
    (answered : scheduler.retryEligible now = (.ok due, next)) :
    SchedulerInvariant next := by
  obtain ⟨rfl, rfl⟩ := retryEligible_ok answered
  have states : ∀ state ∉ [FrontierWorkState.ready, .retryWait], ∀ other,
      (if other ∈ scheduler.due now then some .ready
        else scheduler.states other) = some state ↔
          scheduler.states other = some state := by
    intro state active other
    by_cases isDue : other ∈ scheduler.due now
    · rw [if_pos isDue, holds.waiting_of_due isDue, Option.some.injEq,
        Option.some.injEq]
      exact iff_of_false (fun same => active (by simp [← same]))
        (fun same => active (by simp [← same]))
    · rw [if_neg isDue]
  constructor
  case toHoldings =>
    constructor
    case toTracked =>
      refine ⟨holds.plan, fun other => ?_⟩
      rw [← holds.known other]
      by_cases isDue : other ∈ scheduler.due now
      · simp [isDue, holds.waiting_of_due isDue]
      · simp [isDue]
    case flight =>
      intro other
      rw [holds.flight]
      have grounded : ∀ state : FrontierWorkState, state.isInFlight →
          state ∉ [FrontierWorkState.ready, .retryWait] := by
        intro state inFlight
        cases state <;> simp_all [FrontierWorkState.isInFlight]
      constructor
      · rintro ⟨state, found, inFlight⟩
        exact ⟨state, (states state (grounded state inFlight) other).mpr found,
          inFlight⟩
      · rintro ⟨state, found, inFlight⟩
        exact ⟨state, (states state (grounded state inFlight) other).mp found,
          inFlight⟩
    case fences => exact holds.fences
    case waits =>
      intro other
      by_cases isDue : other ∈ scheduler.due now
      · simp [isDue]
      · simpa [isDue] using holds.waits other
    case owned =>
      intro other wait found
      by_cases isDue : other ∈ scheduler.due now
      · simp [isDue] at found
      · exact holds.owned other wait (by simpa [isDue] using found)
    case control => exact holds.control
  case barrier =>
    exact @barrier_congr _ scheduler rfl (states .succeeded (by simp))
      (states .blocked (by simp)) holds.barrier

/-- The control state, its generation and its reason may change freely. -/
theorem controlled (holds : SchedulerInvariant scheduler)
    (state : ContractLifecycleState) (generation : ControlGeneration)
    (reason : Option Text)
    (control : ControlHolds { scheduler with
      controlState := state
      controlGeneration := generation
      recoveryReason := reason }) :
    SchedulerInvariant { scheduler with
      controlState := state
      controlGeneration := generation
      recoveryReason := reason } :=
  ⟨⟨⟨holds.plan, holds.known⟩, holds.flight, holds.fences, holds.waits,
    holds.owned, control⟩, holds.barrier⟩

theorem reason_none (holds : SchedulerInvariant scheduler)
    (active : scheduler.controlState ≠ .recoveryRequired) :
    scheduler.recoveryReason = none := by
  by_contra explained
  exact active (holds.control.2.1.mpr explained)

theorem advance (holds : SchedulerInvariant scheduler)
    {expected target : ContractLifecycleState} {action : String}
    {generation : ControlGeneration}
    (active : expected ≠ .recoveryRequired)
    (durable : target.isDurable ∧ target ≠ .recoveryRequired)
    (answered : scheduler.advance expected target action =
      (.ok generation, next)) :
    SchedulerInvariant next := by
  obtain ⟨here, _, rfl⟩ := advance_ok answered
  have silent := holds.reason_none (here ▸ active)
  exact holds.controlled target generation scheduler.recoveryReason
    ⟨durable.1, by simp [silent, durable.2], by simp [silent]⟩

theorem switch (holds : SchedulerInvariant scheduler)
    {expected target : ContractLifecycleState} {action : String} {u : Unit}
    (active : expected ≠ .recoveryRequired)
    (durable : target.isDurable ∧ target ≠ .recoveryRequired)
    (answered : scheduler.switch expected target action = (.ok u, next)) :
    SchedulerInvariant next := by
  obtain ⟨here, rfl⟩ := switch_ok answered
  have silent := holds.reason_none (here ▸ active)
  exact holds.controlled target scheduler.controlGeneration
    scheduler.recoveryReason
    ⟨durable.1, by simp [silent, durable.2], by simp [silent]⟩

theorem markRecoveryRequired (holds : SchedulerInvariant scheduler)
    {reason : Text} {u : Unit}
    (answered : scheduler.markRecoveryRequired reason = (.ok u, next)) :
    SchedulerInvariant next := by
  obtain ⟨described, _, rfl⟩ := markRecoveryRequired_ok answered
  exact holds.controlled .recoveryRequired scheduler.controlGeneration
    (some reason) ⟨rfl, by simp, by simpa using described⟩

end SchedulerInvariant

/-! ## Restoring a frontier -/

theorem find?_filterMap_owned {f : WorkIdentity → Option FrontierRetryWait}
    (owned : ∀ identity wait, f identity = some wait →
      wait.identity = identity)
    {keys : List WorkIdentity} {identity : WorkIdentity}
    (known : (f identity).isSome → identity ∈ keys) :
    (keys.filterMap f).find? (fun wait => wait.identity = identity) =
      f identity := by
  induction keys with
  | nil =>
      cases found : f identity with
      | none => rfl
      | some wait => simp [found] at known
  | cons first rest ih =>
      have later : first ≠ identity → (f identity).isSome →
          identity ∈ rest := fun apart present =>
        (List.mem_cons.mp (known present)).resolve_left (Ne.symm apart)
      cases found : f first with
      | none =>
          rw [List.filterMap_cons_none found]
          apply ih
          intro present
          apply later _ present
          rintro rfl
          simp [found] at present
      | some wait =>
          rw [List.filterMap_cons_some found, List.find?_cons]
          have owner := owned first wait found
          by_cases same : first = identity
          · rw [owner, decide_eq_true same, ← same, found]
          · rw [owner, decide_eq_false same]
            exact ih (later same)

/-- A fresh scheduler of the same plan takes over exactly the state that a
scheduler showed in its frontier. -/
theorem restore_frontier {fresh : ConcurrentScheduler}
    (holds : SchedulerInvariant scheduler) (tracked : Tracked fresh)
    (plan : fresh.plan = scheduler.plan) {frontier : SchedulerFrontierV2}
    (shown : scheduler.frontier = .ok frontier) :
    fresh.restore frontier = (.ok (), scheduler) := by
  have fields : frontier.toFrontierFields = scheduler.fields :=
    SchedulerFrontierV2.create_eq_ok.mp shown
  have coherent := frontier.coherent
  have checked : fresh.checkRestored frontier = .ok () := by
    have barriers := (validateFrontierDependencyBarriers_eq_ok (u := ())
      coherent.plan.plain coherent.entries.bounded
        coherent.plan.spans).mpr coherent.barriers
    simp only [checkRestored, check_bind_eq_ok, require_eq_ok,
      decide_eq_true_eq, Bool.and_eq_true, List.all_eq_true]
    refine ⟨?_, ?_, ?_, ?_, ⟨?_, ?_⟩, barriers⟩
    · rw [fields, plan]
      rfl
    · rw [fields, plan]
      rfl
    · rw [fields, plan]
      rfl
    · rw [fields, plan]
      rfl
    · intro identity member
      rw [fields, holds.identities_fields, SchedulerPlan.mem_ordered, ← plan]
        at member
      exact (tracked.known identity).mpr member
    · intro identity member
      rw [fields, holds.identities_fields]
      rw [plan] at member
      simp [member]
  have states : (fun identity => frontier.workStates.lookup identity) =
      scheduler.states := by
    funext identity
    rw [fields]
    apply lookup_itemsOf
    intro present
    exact SchedulerPlan.mem_ordered.mpr ((holds.known identity).mp present)
  have fences : (fun identity => frontier.leaseFences.lookup identity) =
      scheduler.fences := by
    funext identity
    rw [fields]
    apply lookup_itemsOf
    intro present
    obtain ⟨state, found, _⟩ := (holds.flight identity).mp present
    exact SchedulerPlan.mem_ordered.mpr
      ((holds.known identity).mp (by simp [found]))
  have waits : (fun identity =>
      frontier.retryWaits.find? fun wait => wait.identity = identity) =
        scheduler.retryWaits := by
    funext identity
    rw [fields]
    apply find?_filterMap_owned holds.owned
    intro present
    have found := (holds.waits identity).mp present
    exact SchedulerPlan.mem_ordered.mpr
      ((holds.known identity).mp (by simp [found]))
  unfold restore
  rw [checked]
  dsimp only
  rw [states, fences, waits, plan, fields]
  rfl

/-! ## Operations and runs -/

/-- A call of a scheduler's public interface. -/
inductive SchedulerOperation where
  | nextReady (limit : Int)
  | registerAdmission (identity : WorkIdentity) (leaseFence : Int)
  | markResultReceived (identity : WorkIdentity)
  | commitResult (identity : WorkIdentity) (outcome : Text)
  | scheduleRetry (identity : WorkIdentity) (eligibleAtMicros : Int)
      (reason : Text)
  | retryEligible (nowMicros : Int)
  | requestPause
  | markPaused
  | abortPause
  | resume
  | requestCancel
  | markRecoveryRequired (reason : Text)
  | restore (frontier : SchedulerFrontierV2)
  | frontier
  | isFinished
  | failedNodeIds

/-- What a call returns. -/
inductive SchedulerReply where
  | none
  | work (identities : List WorkIdentity)
  | generation (value : ControlGeneration)
  | frontier (value : SchedulerFrontierV2)
  | decision (value : Bool)
  | nodes (value : List Text)
deriving DecidableEq

/-- An answer under the name of its kind. -/
def reply {α : Type} (kind : α → SchedulerReply)
    (answer : SchedulerAnswer α) : SchedulerAnswer SchedulerReply :=
  (answer.1.map kind, answer.2)

/-- One call: the answer, and the scheduler it leaves. -/
def perform (scheduler : ConcurrentScheduler) :
    SchedulerOperation → SchedulerAnswer SchedulerReply
  | .nextReady limit => reply .work (scheduler.nextReady limit, scheduler)
  | .registerAdmission identity leaseFence =>
      reply (fun _ => .none) (scheduler.registerAdmission identity leaseFence)
  | .markResultReceived identity =>
      reply (fun _ => .none) (scheduler.markResultReceived identity)
  | .commitResult identity outcome =>
      reply (fun _ => .none) (scheduler.commitResult identity outcome)
  | .scheduleRetry identity eligibleAtMicros reason =>
      reply (fun _ => .none)
        (scheduler.scheduleRetry identity eligibleAtMicros reason)
  | .retryEligible nowMicros => reply .work (scheduler.retryEligible nowMicros)
  | .requestPause => reply .generation scheduler.requestPause
  | .markPaused => reply (fun _ => .none) scheduler.markPaused
  | .abortPause => reply .generation scheduler.abortPause
  | .resume => reply .generation scheduler.resume
  | .requestCancel => reply (fun _ => .none) scheduler.requestCancel
  | .markRecoveryRequired reason =>
      reply (fun _ => .none) (scheduler.markRecoveryRequired reason)
  | .restore frontier => reply (fun _ => .none) (scheduler.restore frontier)
  | .frontier => reply .frontier (scheduler.frontier, scheduler)
  | .isFinished => reply .decision (.ok scheduler.isFinished, scheduler)
  | .failedNodeIds => reply .nodes (scheduler.failedNodeIds, scheduler)

/-- The answers to a sequence of calls, exceptions included. -/
def answers (scheduler : ConcurrentScheduler) :
    List SchedulerOperation → List (Except SchedulerError SchedulerReply)
  | [] => []
  | operation :: later =>
      (scheduler.perform operation).1 ::
        (scheduler.perform operation).2.answers later

theorem reply_ok {α : Type} {kind : α → SchedulerReply}
    {answer : SchedulerAnswer α} {result : SchedulerReply}
    (answered : reply kind answer = (.ok result, next)) :
    ∃ value, answer = (.ok value, next) ∧ result = kind value := by
  obtain ⟨outcome, left⟩ := answer
  obtain ⟨mapped, rfl⟩ := Prod.mk.inj answered
  obtain ⟨value, rfl, rfl⟩ := map_eq_ok.mp mapped
  exact ⟨value, rfl, rfl⟩

/-- Every successful call on the scheduler itself preserves the invariant. -/
theorem SchedulerInvariant.perform (holds : SchedulerInvariant scheduler)
    {operation : SchedulerOperation} {result : SchedulerReply}
    (ordinary : ∀ frontier, operation ≠ .restore frontier)
    (answered : scheduler.perform operation = (.ok result, next)) :
    SchedulerInvariant next := by
  cases operation with
  | nextReady limit =>
      obtain ⟨_, same, _⟩ := reply_ok answered
      exact (Prod.mk.inj same).2 ▸ holds
  | registerAdmission identity fence =>
      obtain ⟨_, answered, _⟩ := reply_ok answered
      exact holds.registerAdmission answered
  | markResultReceived identity =>
      obtain ⟨_, answered, _⟩ := reply_ok answered
      exact holds.markResultReceived answered
  | commitResult identity outcome =>
      obtain ⟨_, answered, _⟩ := reply_ok answered
      exact holds.commitResult answered
  | scheduleRetry identity eligible reason =>
      obtain ⟨_, answered, _⟩ := reply_ok answered
      exact holds.scheduleRetry answered
  | retryEligible now =>
      obtain ⟨_, answered, _⟩ := reply_ok answered
      exact holds.retryEligible answered
  | requestPause =>
      obtain ⟨_, answered, _⟩ := reply_ok answered
      exact holds.advance (by simp) (by simp [ContractLifecycleState.isDurable])
        answered
  | markPaused =>
      obtain ⟨_, answered, _⟩ := reply_ok answered
      exact holds.switch (by simp) (by simp [ContractLifecycleState.isDurable])
        answered
  | abortPause =>
      obtain ⟨_, answered, _⟩ := reply_ok answered
      exact holds.advance (by simp) (by simp [ContractLifecycleState.isDurable])
        answered
  | resume =>
      obtain ⟨_, answered, _⟩ := reply_ok answered
      exact holds.advance (by simp) (by simp [ContractLifecycleState.isDurable])
        answered
  | requestCancel =>
      obtain ⟨_, answered, _⟩ := reply_ok answered
      exact holds.switch (by simp) (by simp [ContractLifecycleState.isDurable])
        answered
  | markRecoveryRequired reason =>
      obtain ⟨_, answered, _⟩ := reply_ok answered
      exact holds.markRecoveryRequired answered
  | restore frontier => exact absurd rfl (ordinary frontier)
  | frontier | isFinished | failedNodeIds =>
      obtain ⟨_, same, _⟩ := reply_ok answered
      exact (Prod.mk.inj same).2 ▸ holds

/-- The transitions of one work identity, and the call that makes each. -/
inductive WorkMove : SchedulerOperation → WorkIdentity → FrontierWorkState →
    FrontierWorkState → Prop
  | admitted {identity : WorkIdentity} {fence : Int} :
      WorkMove (.registerAdmission identity fence) identity .ready .admitted
  | received {identity : WorkIdentity} :
      WorkMove (.markResultReceived identity) identity .admitted
        .awaitingCommit
  | settled {identity : WorkIdentity} {outcome : Text}
      {state terminal : FrontierWorkState} (inFlight : state.isInFlight)
      (isTerminal : terminal.isTerminal) :
      WorkMove (.commitResult identity outcome) identity state terminal
  | released {identity other : WorkIdentity} {outcome : Text} :
      WorkMove (.commitResult identity outcome) other .blocked .ready
  | retried {identity : WorkIdentity} {eligible : Int} {reason : Text}
      {state : FrontierWorkState} (inFlight : state.isInFlight) :
      WorkMove (.scheduleRetry identity eligible reason) identity state
        .retryWait
  | woken {identity : WorkIdentity} {now : Int} :
      WorkMove (.retryEligible now) identity .retryWait .ready

/-- A call leaves the state of some work alone or makes one transition. -/
def StaysOrMoves (operation : SchedulerOperation)
    (before after : ConcurrentScheduler) : Prop :=
  ∀ identity, after.states identity = before.states identity ∨
    ∃ state target, before.states identity = some state ∧
      after.states identity = some target ∧
        WorkMove operation identity state target

/-- Every successful call on the scheduler itself makes only transitions. -/
theorem SchedulerInvariant.moves (holds : SchedulerInvariant scheduler)
    {operation : SchedulerOperation} {result : SchedulerReply}
    (ordinary : ∀ frontier, operation ≠ .restore frontier)
    (answered : scheduler.perform operation = (.ok result, next)) :
    StaysOrMoves operation scheduler next := by
  intro other
  cases operation with
  | registerAdmission identity fence =>
      obtain ⟨_, answered, _⟩ := reply_ok answered
      obtain ⟨_, ready, _, rfl⟩ := registerAdmission_ok answered
      by_cases same : other = identity
      · subst same
        exact .inr ⟨_, _, ready, Function.update_self .., .admitted⟩
      · exact .inl (Function.update_of_ne same ..)
  | markResultReceived identity =>
      obtain ⟨_, answered, _⟩ := reply_ok answered
      obtain ⟨admitted, rfl⟩ := markResultReceived_ok answered
      by_cases same : other = identity
      · subst same
        exact .inr ⟨_, _, admitted, Function.update_self .., .received⟩
      · exact .inl (Function.update_of_ne same ..)
  | commitResult identity outcome =>
      obtain ⟨_, answered, _⟩ := reply_ok answered
      obtain ⟨terminal, state, _, isTerminal, found, inFlight, moved⟩ :=
        holds.commitResult_released answered
      by_cases opens :
          (scheduler.settled identity terminal).states other = some .blocked ∧
            other.nodeId ∈ scheduler.plan.successors identity.nodeId ∧
              (scheduler.settled identity terminal).Permits other.nodeId
      · have ready := moved.released other opens.1 opens.2.1 opens.2.2
        have blocked := opens.1
        rw [settled_states] at blocked
        by_cases same : other = identity
        · rw [if_pos same, Option.some.injEq] at blocked
          rw [blocked] at isTerminal
          cases isTerminal
        · rw [if_neg same] at blocked
          exact .inr ⟨_, _, blocked, ready, .released⟩
      · have kept := moved.kept other opens
        rw [settled_states] at kept
        by_cases same : other = identity
        · subst same
          rw [if_pos rfl] at kept
          exact .inr ⟨_, _, found, kept, .settled inFlight isTerminal⟩
        · rw [if_neg same] at kept
          exact .inl kept
  | scheduleRetry identity eligible reason =>
      obtain ⟨_, answered, _⟩ := reply_ok answered
      obtain ⟨state, _, found, inFlight, _, rfl⟩ := scheduleRetry_ok answered
      by_cases same : other = identity
      · subst same
        exact .inr ⟨_, _, found, Function.update_self .., .retried inFlight⟩
      · exact .inl (Function.update_of_ne same ..)
  | retryEligible now =>
      obtain ⟨_, answered, _⟩ := reply_ok answered
      obtain ⟨rfl, rfl⟩ := retryEligible_ok answered
      by_cases isDue : other ∈ scheduler.due now
      · exact .inr ⟨_, _, holds.waiting_of_due isDue, if_pos isDue, .woken⟩
      · exact .inl (if_neg isDue)
  | restore frontier => exact absurd rfl (ordinary frontier)
  | nextReady _ | frontier | isFinished | failedNodeIds =>
      obtain ⟨_, same, _⟩ := reply_ok answered
      exact .inl ((Prod.mk.inj same).2 ▸ rfl)
  | requestPause | abortPause | resume =>
      obtain ⟨_, answered, _⟩ := reply_ok answered
      obtain ⟨_, _, rfl⟩ := advance_ok answered
      exact .inl rfl
  | markPaused | requestCancel =>
      obtain ⟨_, answered, _⟩ := reply_ok answered
      obtain ⟨_, rfl⟩ := switch_ok answered
      exact .inl rfl
  | markRecoveryRequired reason =>
      obtain ⟨_, answered, _⟩ := reply_ok answered
      obtain ⟨_, _, rfl⟩ := markRecoveryRequired_ok answered
      exact .inl rfl

/-- Work is in flight while it is admitted or awaits its commit. -/
def InFlight (scheduler : ConcurrentScheduler) (identity : WorkIdentity) :
    Prop :=
  ∃ state, scheduler.states identity = some state ∧ state.isInFlight

end ConcurrentScheduler

/-- A scheduler, and the frontiers that it or its predecessors showed. -/
structure SchedulerRun where
  scheduler : ConcurrentScheduler
  shown : List SchedulerFrontierV2

/-- A frontier that was read may be restored later. -/
def SchedulerRun.remember (shown : List SchedulerFrontierV2) :
    ConcurrentScheduler.SchedulerReply → List SchedulerFrontierV2
  | .frontier frontier => frontier :: shown
  | _ => shown

/--
One successful call.  A call other than `restore` is made on the scheduler
itself; `restore` is called on a fresh scheduler of the same plan, with a
frontier that was shown before, and that scheduler goes on.
-/
inductive SchedulerRun.Step (plan : SchedulerPlan) : SchedulerRun →
    ConcurrentScheduler.SchedulerOperation → SchedulerRun → Prop
  | performed {run : SchedulerRun}
      {operation : ConcurrentScheduler.SchedulerOperation}
      {result : ConcurrentScheduler.SchedulerReply}
      {next : ConcurrentScheduler}
      (ordinary : ∀ frontier, operation ≠ .restore frontier)
      (answered : run.scheduler.perform operation = (.ok result, next)) :
      Step plan run operation ⟨next, remember run.shown result⟩
  | restored {run : SchedulerRun} {frontier : SchedulerFrontierV2}
      {generation : ControlGeneration} {next : ConcurrentScheduler}
      (known : frontier ∈ run.shown)
      (answered :
        (plan.start generation).restore frontier = (.ok (), next)) :
      Step plan run (.restore frontier) ⟨next, run.shown⟩

/-- All runs of the schedulers of one plan. -/
def schedulerSystem (plan : SchedulerPlan) :
    TransitionSystem SchedulerRun ConcurrentScheduler.SchedulerOperation where
  Initial run := ∃ generation, run = ⟨plan.start generation, []⟩
  Step := SchedulerRun.Step plan

namespace SchedulerRun

open ConcurrentScheduler

/-- The scheduler keeps its invariant, and so did every scheduler that showed
one of the frontiers. -/
structure Holds (plan : SchedulerPlan) (run : SchedulerRun) : Prop where
  same : run.scheduler.plan = plan
  invariant : run.scheduler.SchedulerInvariant
  origins : ∀ frontier ∈ run.shown, ∃ scheduler : ConcurrentScheduler,
    scheduler.plan = plan ∧ scheduler.SchedulerInvariant ∧
      scheduler.frontier = .ok frontier

/-- No call changes the plan. -/
theorem perform_plan {scheduler next : ConcurrentScheduler}
    (holds : scheduler.SchedulerInvariant)
    {operation : SchedulerOperation} {result : SchedulerReply}
    (ordinary : ∀ frontier, operation ≠ .restore frontier)
    (answered : scheduler.perform operation = (.ok result, next)) :
    next.plan = scheduler.plan := by
  cases operation with
  | registerAdmission identity fence =>
      obtain ⟨_, answered, _⟩ := reply_ok answered
      obtain ⟨_, _, _, rfl⟩ := registerAdmission_ok answered
      rfl
  | markResultReceived identity =>
      obtain ⟨_, answered, _⟩ := reply_ok answered
      obtain ⟨_, rfl⟩ := markResultReceived_ok answered
      rfl
  | commitResult identity outcome =>
      obtain ⟨_, answered, _⟩ := reply_ok answered
      obtain ⟨_, _, _, _, _, _, moved⟩ := holds.commitResult_released answered
      exact moved.plan
  | scheduleRetry identity eligible reason =>
      obtain ⟨_, answered, _⟩ := reply_ok answered
      obtain ⟨_, _, _, _, _, rfl⟩ := scheduleRetry_ok answered
      rfl
  | retryEligible now =>
      obtain ⟨_, answered, _⟩ := reply_ok answered
      obtain ⟨_, rfl⟩ := retryEligible_ok answered
      rfl
  | restore frontier => exact absurd rfl (ordinary frontier)
  | nextReady _ | frontier | isFinished | failedNodeIds =>
      obtain ⟨_, same, _⟩ := reply_ok answered
      exact (Prod.mk.inj same).2 ▸ rfl
  | requestPause | abortPause | resume =>
      obtain ⟨_, answered, _⟩ := reply_ok answered
      obtain ⟨_, _, rfl⟩ := advance_ok answered
      rfl
  | markPaused | requestCancel =>
      obtain ⟨_, answered, _⟩ := reply_ok answered
      obtain ⟨_, rfl⟩ := switch_ok answered
      rfl
  | markRecoveryRequired reason =>
      obtain ⟨_, answered, _⟩ := reply_ok answered
      obtain ⟨_, _, rfl⟩ := markRecoveryRequired_ok answered
      rfl

/-- Only reading the frontier replies with a frontier. -/
theorem perform_frontier {scheduler next : ConcurrentScheduler}
    {operation : SchedulerOperation} {frontier : SchedulerFrontierV2}
    (answered : scheduler.perform operation = (.ok (.frontier frontier), next)) :
    next.frontier = .ok frontier := by
  cases operation
  case frontier =>
    obtain ⟨shown, same, replied⟩ := reply_ok answered
    obtain ⟨read, rfl⟩ := Prod.mk.inj same
    cases replied
    exact read
  all_goals
    obtain ⟨_, _, replied⟩ := reply_ok answered
    cases replied

theorem step_holds {plan : SchedulerPlan} (coherent : plan.Coherent)
    {run next : SchedulerRun} {operation : SchedulerOperation}
    (holds : run.Holds plan) (step : Step plan run operation next) :
    next.Holds plan := by
  cases step with
  | @performed _ result scheduler ordinary answered =>
      have invariant := holds.invariant.perform ordinary answered
      have samePlan := perform_plan holds.invariant ordinary answered
      refine ⟨samePlan.trans holds.same, invariant, ?_⟩
      intro frontier member
      cases result with
      | frontier shown =>
          rcases List.mem_cons.mp member with rfl | earlier
          · exact ⟨scheduler, samePlan.trans holds.same, invariant,
              perform_frontier answered⟩
          · exact holds.origins frontier earlier
      | none => exact holds.origins frontier member
      | work _ => exact holds.origins frontier member
      | generation _ => exact holds.origins frontier member
      | decision _ => exact holds.origins frontier member
      | nodes _ => exact holds.origins frontier member
  | @restored frontier generation scheduler known answered =>
      obtain ⟨origin, originPlan, originHolds, shown⟩ :=
        holds.origins frontier known
      have fresh := SchedulerInvariant.start coherent generation
      have same := restore_frontier originHolds fresh.toTracked
        originPlan.symm shown
      have reached : origin = scheduler :=
        (Prod.mk.inj (same.symm.trans answered)).2
      subst reached
      exact ⟨originPlan, originHolds, holds.origins⟩

theorem run_holds {plan : SchedulerPlan} (coherent : plan.Coherent)
    {run : SchedulerRun} (reached : (schedulerSystem plan).Reachable run) :
    run.Holds plan := by
  refine @TransitionSystem.Reachable.invariant _ _ _ (Holds plan) ?_ ?_ run
    reached
  · rintro state ⟨generation, rfl⟩
    exact ⟨rfl, SchedulerInvariant.start coherent generation, by simp⟩
  · intro state operation next _ holds step
    exact step_holds coherent holds step

end SchedulerRun

namespace ConcurrentScheduler

variable {scheduler next : ConcurrentScheduler}

/-- What a scheduler shows between two calls. -/
structure FrontierHolds (scheduler : ConcurrentScheduler) : Prop where
  returns : ∃ frontier, scheduler.frontier = .ok frontier
  barrier : ∀ identity ∈ scheduler.plan.identities,
    scheduler.states identity ≠ some .blocked ↔
      scheduler.Permits identity.nodeId
  fenced : ∀ identity, (scheduler.fences identity).isSome ↔
    scheduler.InFlight identity
  waiting : ∀ identity, (scheduler.retryWaits identity).isSome ↔
    scheduler.states identity = some .retryWait

/-- The calls that start another control generation. -/
def SchedulerOperation.advances : SchedulerOperation → Bool
  | .requestPause => true
  | .abortPause => true
  | .resume => true
  | _ => false

/-- What a call on the scheduler itself may change. -/
structure CallHolds (operation : SchedulerOperation)
    (before after : ConcurrentScheduler) : Prop where
  terminal : ∀ identity state, before.states identity = some state →
    state.isTerminal → after.states identity = some state
  admission : ∀ identity fence,
    operation = .registerAdmission identity fence →
      before.controlState = .running ∧ ¬ before.InFlight identity
  admitted : ∀ identity, after.InFlight identity →
    before.InFlight identity ∨
      ∃ fence, operation = .registerAdmission identity fence
  generation : operation.advances →
    before.controlGeneration.value < after.controlGeneration.value

/-- What one step of a run may change; `restore` takes an earlier frontier
over as it was. -/
def StepHolds (operation : SchedulerOperation)
    (before after : ConcurrentScheduler) : Prop :=
  match operation with
  | .restore frontier => after.frontier = .ok frontier
  | ordinary => CallHolds ordinary before after

theorem SchedulerInvariant.frontierHolds
    (holds : SchedulerInvariant scheduler) : FrontierHolds scheduler where
  returns := by
    obtain ⟨frontier, shown, _⟩ := holds.frontier_eq_ok
    exact ⟨frontier, shown⟩
  barrier identity inPlan := by
    rw [Ne, holds.barrier identity inPlan, not_not]
  fenced := holds.flight
  waiting := holds.waits

/-- No transition leaves a terminal state. -/
theorem WorkMove.active {operation : SchedulerOperation}
    {identity : WorkIdentity} {state target : FrontierWorkState}
    (move : WorkMove operation identity state target) :
    state.isTerminal = false := by
  cases move with
  | settled inFlight _ =>
      cases state <;> simp_all [FrontierWorkState.isTerminal,
        FrontierWorkState.isInFlight]
  | retried inFlight =>
      cases state <;> simp_all [FrontierWorkState.isTerminal,
        FrontierWorkState.isInFlight]
  | admitted => rfl
  | received => rfl
  | released => rfl
  | woken => rfl

/-- Work enters its flight only when it is admitted. -/
theorem WorkMove.enters {operation : SchedulerOperation}
    {identity : WorkIdentity} {state target : FrontierWorkState}
    (move : WorkMove operation identity state target)
    (inFlight : target.isInFlight) :
    state.isInFlight ∨ ∃ fence, operation = .registerAdmission identity fence := by
  cases move with
  | admitted => exact .inr ⟨_, rfl⟩
  | received => exact .inl rfl
  | settled _ isTerminal =>
      cases target <;> simp_all [FrontierWorkState.isTerminal,
        FrontierWorkState.isInFlight]
  | released => cases inFlight
  | retried _ => cases inFlight
  | woken => cases inFlight

/-- Pausing, aborting a pause and resuming start another generation. -/
theorem perform_generation {operation : SchedulerOperation}
    {result : SchedulerReply} (advances : operation.advances)
    (answered : scheduler.perform operation = (.ok result, next)) :
    scheduler.controlGeneration.value < next.controlGeneration.value := by
  have increased : ∀ {expected target : ContractLifecycleState}
      {action : String}, reply .generation
        (scheduler.advance expected target action) = (.ok result, next) →
      scheduler.controlGeneration.value < next.controlGeneration.value := by
    intro expected target action answered
    obtain ⟨generation, answered, _⟩ := reply_ok answered
    obtain ⟨_, grown, rfl⟩ := advance_ok answered
    show scheduler.controlGeneration.value < generation.value
    omega
  cases operation
  case requestPause => exact increased answered
  case abortPause => exact increased answered
  case resume => exact increased answered
  all_goals cases advances

/-- A successful call on the scheduler itself does what a step may do. -/
theorem SchedulerInvariant.callHolds (holds : SchedulerInvariant scheduler)
    {operation : SchedulerOperation} {result : SchedulerReply}
    (ordinary : ∀ frontier, operation ≠ .restore frontier)
    (answered : scheduler.perform operation = (.ok result, next)) :
    CallHolds operation scheduler next where
  terminal identity state found isTerminal := by
    rcases holds.moves ordinary answered identity with
      same | ⟨before, after, here, _, move⟩
    · rw [same, found]
    · rw [found, Option.some.injEq] at here
      have active := move.active
      rw [← here, isTerminal] at active
      cases active
  admission identity fence same := by
    subst same
    obtain ⟨_, answered, _⟩ := reply_ok answered
    obtain ⟨_, ready, running, _⟩ := registerAdmission_ok answered
    refine ⟨running, ?_⟩
    rintro ⟨state, found, inFlight⟩
    rw [ready, Option.some.injEq] at found
    rw [← found] at inFlight
    cases inFlight
  admitted identity := by
    rintro ⟨state, found, inFlight⟩
    rcases holds.moves ordinary answered identity with
      same | ⟨before, after, here, there, move⟩
    · exact .inl ⟨state, same ▸ found, inFlight⟩
    · rw [found, Option.some.injEq] at there
      rw [there] at inFlight
      rcases move.enters inFlight with earlier | now
      · exact .inl ⟨before, here, earlier⟩
      · exact .inr now
  generation advances := perform_generation advances answered

end ConcurrentScheduler

open ConcurrentScheduler in
theorem SchedulerRun.Step.holds {plan : SchedulerPlan}
    (coherent : plan.Coherent) {run next : SchedulerRun}
    {operation : SchedulerOperation} (holds : run.Holds plan)
    (step : Step plan run operation next) :
    StepHolds operation run.scheduler next.scheduler := by
  cases step with
  | @performed _ result scheduler ordinary answered =>
      have called := holds.invariant.callHolds ordinary answered
      cases operation
      case restore frontier => exact absurd rfl (ordinary frontier)
      all_goals exact called
  | @restored frontier generation scheduler known answered =>
      obtain ⟨origin, originPlan, originHolds, shown⟩ :=
        holds.origins frontier known
      have fresh := SchedulerInvariant.start coherent generation
      have same := restore_frontier originHolds fresh.toTracked
        originPlan.symm shown
      have reached : origin = scheduler :=
        (Prod.mk.inj (same.symm.trans answered)).2
      exact reached ▸ shown

open ConcurrentScheduler in
/-- In every run of a scheduler the frontier can be read, barriers, fences and
waits agree with the states of the work, and every step respects the states
that are terminal, the control state and its generation. -/
theorem scheduler_runs {runId planFingerprint : Text} {nodeOrder : List Text}
    {edges : List (Text × Text)} {partitionsByNode : List (Text × List Text)}
    {plan : SchedulerPlan}
    (created : SchedulerPlan.create runId planFingerprint nodeOrder edges
      partitionsByNode = .ok plan)
    {run : SchedulerRun} (reached : (schedulerSystem plan).Reachable run) :
    FrontierHolds run.scheduler ∧
      ∀ operation next, (schedulerSystem plan).Step run operation next →
        StepHolds operation run.scheduler next.scheduler := by
  have coherent := SchedulerPlan.create_coherent created
  have holds := SchedulerRun.run_holds coherent reached
  refine ⟨holds.invariant.frontierHolds, ?_⟩
  intro operation next step
  exact step.holds coherent holds

section Sample

def sampleWork (node : Text)
    (valid : isPlainText maxFrontierIdentityLength node) : WorkIdentity :=
  ⟨text "run_one", node, text "p-1", by
    simp only [valid, Bool.and_true, Bool.and_eq_true]
    decide⟩

theorem sampleLoad_plain :
    isPlainText maxFrontierIdentityLength (text "nod_load") := by
  decide

/-- Two nodes of one partition each, the second behind the first. -/
def sampleSchedulerPlan : SchedulerPlan where
  runId := text "run_one"
  planFingerprint := List.replicate 64 (point 'a')
  nodeOrder := [text "nod_load", text "nod_sum"]
  edges := [(text "nod_load", text "nod_sum")]
  identitiesByNode :=
    [(text "nod_load", [sampleWork (text "nod_load") sampleLoad_plain]),
      (text "nod_sum", [sampleWork (text "nod_sum") (by decide)])]

theorem sampleSchedulerPlan_created :
    SchedulerPlan.create (text "run_one") (List.replicate 64 (point 'a'))
      [text "nod_load", text "nod_sum"] [(text "nod_load", text "nod_sum")]
      [(text "nod_load", [text "p-1"]), (text "nod_sum", [text "p-1"])] =
        .ok sampleSchedulerPlan :=
  toOption_eq_some.mp (by decide)

/-- The first work is admitted. -/
def sampleAdmitted : SchedulerRun where
  scheduler := ((sampleSchedulerPlan.start ⟨1, firstGeneration_bounds⟩).perform
    (.registerAdmission (sampleWork (text "nod_load") sampleLoad_plain) 1)).2
  shown := []

theorem sampleAdmitted_reachable :
    (schedulerSystem sampleSchedulerPlan).Reachable sampleAdmitted := by
  have initial : (schedulerSystem sampleSchedulerPlan).Initial
      ⟨sampleSchedulerPlan.start ⟨1, by decide⟩, []⟩ := ⟨_, rfl⟩
  refine .step (.initial initial) (@SchedulerRun.Step.performed _ _
    (.registerAdmission (sampleWork (text "nod_load") (by decide)) 1) .none
    sampleAdmitted.scheduler (by simp) ?_)
  exact Prod.ext (toOption_eq_some.mp (by decide)) rfl

theorem scheduler_runs_sample :
    sampleAdmitted.scheduler.InFlight
        (sampleWork (text "nod_load") (by decide)) ∧
      sampleAdmitted.scheduler.FrontierHolds ∧
      ∀ operation next,
        (schedulerSystem sampleSchedulerPlan).Step sampleAdmitted operation
          next → ConcurrentScheduler.StepHolds operation
            sampleAdmitted.scheduler next.scheduler :=
  ⟨⟨.admitted, by decide, rfl⟩,
    scheduler_runs sampleSchedulerPlan_created sampleAdmitted_reachable⟩

end Sample

end ParityGrid.Application
