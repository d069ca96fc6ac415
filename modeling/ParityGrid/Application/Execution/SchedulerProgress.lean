import ParityGrid.Application.Execution.SchedulerRuns

/-!
# What a scheduler can still complete

A scheduler can complete work when some sequence of successful calls brings it
to a terminal state.  One scheduler follows another when its work is in the
same phases and it admits whenever the other may; then it can complete whatever
the other can.
-/

namespace ParityGrid.Application

open ParityGrid.Foundation

/-- What durable evidence can tell of the state of some work. -/
inductive WorkPhase where
  | blocked
  | claimable
  | inFlight
  | succeeded
  | quarantined
  | failed
  | cancelled
deriving DecidableEq

def FrontierWorkState.phase : FrontierWorkState → WorkPhase
  | .blocked => .blocked
  | .ready | .retryWait => .claimable
  | .admitted | .awaitingCommit => .inFlight
  | .succeeded => .succeeded
  | .quarantined => .quarantined
  | .failed => .failed
  | .cancelled => .cancelled

namespace FrontierWorkState

theorem phase_blocked {state : FrontierWorkState} :
    state.phase = .blocked ↔ state = .blocked := by
  cases state <;> simp [phase]

theorem phase_succeeded {state : FrontierWorkState} :
    state.phase = .succeeded ↔ state = .succeeded := by
  cases state <;> simp [phase]

theorem phase_inFlight {state : FrontierWorkState} :
    state.phase = .inFlight ↔ state.isInFlight := by
  cases state <;> simp [phase, isInFlight]

theorem phase_claimable {state : FrontierWorkState} :
    state.phase = .claimable ↔ state = .ready ∨ state = .retryWait := by
  cases state <;> simp [phase]

/-- A terminal state is known by its phase. -/
theorem phase_terminal {state other : FrontierWorkState}
    (isTerminal : state.isTerminal) (same : other.phase = state.phase) :
    other = state := by
  cases state <;> cases other <;>
    simp_all [phase, FrontierWorkState.isTerminal]

end FrontierWorkState

namespace ConcurrentScheduler

variable {scheduler next : ConcurrentScheduler} {identity : WorkIdentity}

/-! ## Calls that succeed -/

theorem registerAdmission_ready
    (ready : scheduler.states identity = some .ready)
    (running : scheduler.controlState = .running) {fence : Int}
    (range : 1 ≤ fence ∧ fence ≤ maxFrontierLeaseFence) :
    scheduler.registerAdmission identity fence = (.ok (), { scheduler with
      states := Function.update scheduler.states identity (some .admitted)
      fences := Function.update scheduler.fences identity (some fence) }) := by
  simp [registerAdmission, range, ready, running,
    FrontierWorkState.isInFlight]

theorem commitResult_inFlight (holds : scheduler.SchedulerInvariant)
    {state : FrontierWorkState}
    (found : scheduler.states identity = some state)
    (inFlight : state.isInFlight) {outcome : Text}
    {terminal : FrontierWorkState}
    (parsed : FrontierWorkState.parse outcome = some terminal)
    (isTerminal : terminal.isTerminal) :
    ∃ next, scheduler.commitResult identity outcome = (.ok (), next) ∧
      ReleasedFrom (scheduler.settled identity terminal)
        (scheduler.plan.successors identity.nodeId) next := by
  obtain ⟨released, looped, moved⟩ :=
    (holds.toTracked.settled found terminal).releaseEach
      (scheduler.plan.successors identity.nodeId)
  refine ⟨released, ?_, moved⟩
  unfold commitResult
  rw [parsed]
  simp only [isTerminal, found, inFlight]
  exact looped

theorem scheduleRetry_inFlight {state : FrontierWorkState}
    (found : scheduler.states identity = some state)
    (inFlight : state.isInFlight) (wait : FrontierRetryWait)
    (owned : wait.identity = identity) :
    scheduler.scheduleRetry identity wait.eligibleAtMicros wait.reason =
      (.ok (), scheduler.placed identity .retryWait none (some wait)) := by
  have described : requireReasonText wait.reason "scheduler retry reason" =
      .ok () := requirePlainText_eq_ok.mpr wait.described
  have created : FrontierRetryWait.create identity wait.eligibleAtMicros
      wait.reason = .ok wait :=
    FrontierRetryWait.create_eq_ok.mpr ⟨owned, rfl, rfl⟩
  unfold scheduleRetry
  rw [if_neg (not_lt.mpr wait.eligible.1), described]
  simp only [found, inFlight, created]
  rfl

theorem resume_paused (paused : scheduler.controlState = .paused)
    (bounded : scheduler.controlGeneration.value < 2147483647) :
    ∃ generation, scheduler.resume = (.ok generation, { scheduler with
      controlState := .running
      controlGeneration := generation }) := by
  have lower := scheduler.controlGeneration.bounds.1
  have bounds : 1 ≤ scheduler.controlGeneration.value + 1 ∧
      scheduler.controlGeneration.value + 1 ≤ 2147483647 := by omega
  refine ⟨⟨_, bounds⟩, ?_⟩
  simp [resume, advance, requireControl, paused, nextGeneration, bounds]

/-! ## Following another scheduler -/

/-- The successful calls on a scheduler itself. -/
def callSystem : TransitionSystem ConcurrentScheduler SchedulerOperation where
  Initial _ := True
  Step scheduler operation next :=
    (∀ frontier, operation ≠ .restore frontier) ∧
      ∃ result, scheduler.perform operation = (.ok result, next)

/-- Some sequence of calls brings the work to a terminal state. -/
def Completes (scheduler : ConcurrentScheduler) (identity : WorkIdentity) :
    Prop :=
  ∃ last, callSystem.Leads scheduler last ∧
    ∃ state, last.states identity = some state ∧ state.isTerminal

def phaseOf (scheduler : ConcurrentScheduler) (identity : WorkIdentity) :
    Option WorkPhase :=
  (scheduler.states identity).map FrontierWorkState.phase

/-- The follower runs whenever its leader may run, now or later. -/
def ControlFollows (leader follower : ConcurrentScheduler) : Prop :=
  follower.controlState = .running ∨
    leader.controlState ∈
      [ContractLifecycleState.cancelling, .recoveryRequired] ∨
    (leader.controlState = .paused ∧ follower.controlState = .paused ∧
      follower.controlGeneration = leader.controlGeneration)

/-- The follower's work is in the phases of its leader's work. -/
structure Follows (leader follower : ConcurrentScheduler) : Prop where
  leads : leader.SchedulerInvariant
  follows : follower.SchedulerInvariant
  plan : follower.plan = leader.plan
  phases : ∀ identity, follower.phaseOf identity = leader.phaseOf identity
  control : ControlFollows leader follower

namespace Follows

variable {leader follower : ConcurrentScheduler}

/-- The follower's state of some work, from its phase. -/
theorem state (related : Follows leader follower) {state : FrontierWorkState}
    (found : leader.states identity = some state) :
    ∃ other, follower.states identity = some other ∧
      other.phase = state.phase := by
  have same := related.phases identity
  rw [phaseOf, phaseOf, found, Option.map_some, Option.map_eq_some_iff] at same
  exact same

theorem inFlight (related : Follows leader follower)
    {state : FrontierWorkState}
    (found : leader.states identity = some state) (flying : state.isInFlight) :
    ∃ other, follower.states identity = some other ∧ other.isInFlight := by
  obtain ⟨other, there, same⟩ := related.state found
  rw [FrontierWorkState.phase_inFlight.mpr flying] at same
  exact ⟨other, there, FrontierWorkState.phase_inFlight.mp same⟩

/-- A state that its phase determines is the same on both sides. -/
theorem states_iff (related : Follows leader follower)
    {state : FrontierWorkState}
    (known : ∀ other : FrontierWorkState, other.phase = state.phase →
      other = state) :
    follower.states identity = some state ↔
      leader.states identity = some state := by
  have same := related.phases identity
  rw [phaseOf, phaseOf] at same
  constructor
  · intro found
    rw [found, Option.map_some, eq_comm, Option.map_eq_some_iff] at same
    obtain ⟨other, there, equal⟩ := same
    rw [there, known other equal]
  · intro found
    rw [found, Option.map_some, Option.map_eq_some_iff] at same
    obtain ⟨other, there, equal⟩ := same
    rw [there, known other equal]

/-- The follower may stand still while the leader changes within phases. -/
theorem stays (related : Follows leader follower)
    {next : ConcurrentScheduler} (holds : next.SchedulerInvariant)
    (plan : next.plan = leader.plan)
    (phases : ∀ identity, next.phaseOf identity = leader.phaseOf identity)
    (control : ControlFollows next follower) : Follows next follower :=
  ⟨holds, related.follows, related.plan.trans plan.symm,
    fun identity => (related.phases identity).trans (phases identity).symm,
    control⟩

theorem running (related : Follows leader follower)
    (runs : leader.controlState ∈ [ContractLifecycleState.running,
      .quiescing]) :
    follower.controlState = .running := by
  rcases related.control with running | stopped | ⟨paused, _⟩
  · exact running
  · simp only [List.mem_cons, List.not_mem_nil, or_false] at runs stopped
    rcases runs with runs | runs <;> rw [runs] at stopped <;> simp at stopped
  · rw [paused] at runs
    simp at runs

/-- A follower whose work waits for a retry can make it ready. -/
theorem wakes (related : Follows leader follower)
    (waiting : follower.states identity = some .retryWait) :
    ∃ awake, callSystem.Leads follower awake ∧ Follows leader awake ∧
      awake.states identity = some .ready := by
  obtain ⟨wait, held⟩ := Option.isSome_iff_exists.mp
    ((related.follows.waits identity).mpr waiting)
  have due : identity ∈ follower.due wait.eligibleAtMicros := by
    refine mem_sortedBy.mpr (List.mem_filter.mpr ⟨?_, by simp [held]⟩)
    exact (related.follows.known identity).mp (by simp [waiting])
  have woken : follower.retryEligible wait.eligibleAtMicros =
      (.ok (follower.due wait.eligibleAtMicros), { follower with
        states := fun other =>
          if other ∈ follower.due wait.eligibleAtMicros then some .ready
          else follower.states other
        retryWaits := fun other =>
          if other ∈ follower.due wait.eligibleAtMicros then none
          else follower.retryWaits other }) := by
    rw [retryEligible, if_neg (not_lt.mpr wait.eligible.1)]
  refine ⟨_, @TransitionSystem.Leads.single _ _ callSystem follower _
    (.retryEligible wait.eligibleAtMicros)
    ⟨by simp, .work _, by rw [perform, woken]; rfl⟩, ?_, if_pos due⟩
  refine ⟨related.leads, related.follows.retryEligible woken, related.plan,
    fun other => ?_, related.control⟩
  rw [← related.phases other]
  by_cases isDue : other ∈ follower.due wait.eligibleAtMicros
  · have before := related.follows.waiting_of_due isDue
    simp [phaseOf, isDue, before, FrontierWorkState.phase]
  · simp [phaseOf, isDue]

/-- A follower that runs can admit what its leader finds ready. -/
theorem readies (related : Follows leader follower)
    (ready : leader.states identity = some .ready) :
    ∃ awake, callSystem.Leads follower awake ∧ Follows leader awake ∧
      awake.states identity = some .ready := by
  obtain ⟨other, found, same⟩ := related.state ready
  rcases FrontierWorkState.phase_claimable.mp same with rfl | rfl
  · exact ⟨follower, .refl, related, found⟩
  · exact related.wakes found

/-- Both sides move the same work to the same state. -/
theorem moved (related : Follows leader follower)
    {next answer : ConcurrentScheduler} {state : FrontierWorkState}
    (leads : next.SchedulerInvariant) (follows : answer.SchedulerInvariant)
    (plans : next.plan = leader.plan ∧ answer.plan = follower.plan)
    (left : ∀ other, next.states other =
      if other = identity then some state else leader.states other)
    (right : ∀ other, answer.states other =
      if other = identity then some state else follower.states other)
    (control : ControlFollows next answer) : Follows next answer := by
  refine ⟨leads, follows, ?_, fun other => ?_, control⟩
  · rw [plans.1, plans.2, related.plan]
  · have before := related.phases other
    rw [phaseOf, phaseOf] at before ⊢
    rw [left, right]
    by_cases same : other = identity
    · rw [if_pos same, if_pos same]
    · rw [if_neg same, if_neg same, before]

theorem registerAdmission (related : Follows leader follower) {fence : Int}
    {next : ConcurrentScheduler} {u : Unit}
    (answered : leader.registerAdmission identity fence = (.ok u, next)) :
    ∃ answer, callSystem.Leads follower answer ∧ Follows next answer := by
  have leads := related.leads.registerAdmission answered
  obtain ⟨range, ready, runs, rfl⟩ := registerAdmission_ok answered
  obtain ⟨awake, woken, related, there⟩ := related.readies ready
  have awakeRuns := related.running (by simp [runs])
  have admitted := registerAdmission_ready there awakeRuns range
  refine ⟨_, woken.trans (@TransitionSystem.Leads.single _ _ callSystem awake
    _ (.registerAdmission identity fence)
    ⟨by simp, .none, by rw [perform, admitted]; rfl⟩), ?_⟩
  exact related.moved leads (related.follows.registerAdmission admitted)
    ⟨rfl, rfl⟩ (fun _ => Function.update_apply ..)
    (fun _ => Function.update_apply ..) (.inl awakeRuns)

theorem scheduleRetry (related : Follows leader follower) {eligible : Int}
    {reason : Text} {next : ConcurrentScheduler} {u : Unit}
    (answered : leader.scheduleRetry identity eligible reason =
      (.ok u, next)) :
    ∃ answer, callSystem.Leads follower answer ∧ Follows next answer := by
  have leads := related.leads.scheduleRetry answered
  obtain ⟨state, wait, found, flying, created, rfl⟩ :=
    scheduleRetry_ok answered
  obtain ⟨owned, rfl, rfl⟩ := FrontierRetryWait.create_eq_ok.mp created
  obtain ⟨other, there, flies⟩ := related.inFlight found flying
  have waits := scheduleRetry_inFlight there flies wait owned
  refine ⟨_, @TransitionSystem.Leads.single _ _ callSystem follower _
    (.scheduleRetry identity wait.eligibleAtMicros wait.reason)
    ⟨by simp, .none, by rw [perform, waits]; rfl⟩, ?_⟩
  exact related.moved leads (related.follows.scheduleRetry waits) ⟨rfl, rfl⟩
    (fun _ => Function.update_apply ..) (fun _ => Function.update_apply ..)
    related.control

theorem resume (related : Follows leader follower)
    {generation : ControlGeneration} {next : ConcurrentScheduler}
    (answered : leader.resume = (.ok generation, next)) :
    ∃ answer, callSystem.Leads follower answer ∧ Follows next answer := by
  have leads := related.leads.advance (by simp)
    (by simp [ContractLifecycleState.isDurable]) answered
  obtain ⟨paused, grown, rfl⟩ := advance_ok answered
  rcases related.control with running | stopped | ⟨_, there, same⟩
  · exact ⟨follower, .refl, related.stays leads rfl (fun _ => rfl)
      (.inl running)⟩
  · rw [paused] at stopped
    simp at stopped
  · have bounded : follower.controlGeneration.value < 2147483647 := by
      have upper := generation.bounds.2
      rw [same]
      omega
    obtain ⟨_, resumed⟩ := resume_paused there bounded
    have follows := related.follows.advance (by simp)
      (by simp [ContractLifecycleState.isDurable]) resumed
    refine ⟨_, @TransitionSystem.Leads.single _ _ callSystem follower _
      .resume ⟨by simp, .generation _, by rw [perform, resumed]; rfl⟩, ?_⟩
    exact ⟨leads, follows, related.plan, related.phases, .inl rfl⟩

/-- Equal settlements release the same work on both sides. -/
theorem released (related : Follows leader follower)
    {terminal : FrontierWorkState} {nodes : List Text}
    {next answer : ConcurrentScheduler}
    (left : ReleasedFrom (leader.settled identity terminal) nodes next)
    (right : ReleasedFrom (follower.settled identity terminal) nodes answer)
    (other : WorkIdentity) : answer.phaseOf other = next.phaseOf other := by
  have settled : ∀ someone,
      (follower.settled identity terminal).phaseOf someone =
        (leader.settled identity terminal).phaseOf someone := by
    intro someone
    have before := related.phases someone
    rw [phaseOf, phaseOf] at before ⊢
    rw [settled_states, settled_states]
    by_cases same : someone = identity
    · rw [if_pos same, if_pos same]
    · rw [if_neg same, if_neg same, before]
  have agree : ∀ state : FrontierWorkState,
      (∀ someone : FrontierWorkState, someone.phase = state.phase →
        someone = state) → ∀ someone,
        ((follower.settled identity terminal).states someone = some state ↔
          (leader.settled identity terminal).states someone = some state) := by
    intro state known someone
    rw [settled_states, settled_states]
    by_cases same : someone = identity
    · rw [if_pos same, if_pos same]
    · rw [if_neg same, if_neg same]
      exact related.states_iff known
  have permits : (follower.settled identity terminal).Permits other.nodeId ↔
      (leader.settled identity terminal).Permits other.nodeId := by
    refine @Permits.congr (follower.settled identity terminal)
      (leader.settled identity terminal) related.plan (fun someone => ?_) _
    exact agree .succeeded (fun _ => FrontierWorkState.phase_succeeded.mp)
      someone
  have blocked := agree .blocked
    (fun _ => FrontierWorkState.phase_blocked.mp) other
  by_cases opens : (leader.settled identity terminal).states other =
      some .blocked ∧ other.nodeId ∈ nodes ∧
        (leader.settled identity terminal).Permits other.nodeId
  · rw [phaseOf, phaseOf, left.released other opens.1 opens.2.1 opens.2.2,
      right.released other (blocked.mpr opens.1) opens.2.1
        (permits.mpr opens.2.2)]
  · have closed : ¬ ((follower.settled identity terminal).states other =
        some .blocked ∧ other.nodeId ∈ nodes ∧
          (follower.settled identity terminal).Permits other.nodeId) := by
      rw [blocked, permits]
      exact opens
    rw [phaseOf, phaseOf, left.kept other opens, right.kept other closed]
    exact settled other

theorem commitResult (related : Follows leader follower) {outcome : Text}
    {next : ConcurrentScheduler} {u : Unit}
    (answered : leader.commitResult identity outcome = (.ok u, next)) :
    ∃ answer, callSystem.Leads follower answer ∧ Follows next answer := by
  have leads := related.leads.commitResult answered
  obtain ⟨terminal, state, parsed, isTerminal, found, flying, left⟩ :=
    related.leads.commitResult_released answered
  obtain ⟨other, there, flies⟩ := related.inFlight found flying
  obtain ⟨answer, committed, right⟩ :=
    commitResult_inFlight related.follows there flies parsed isTerminal
  refine ⟨answer, @TransitionSystem.Leads.single _ _ callSystem follower _
    (.commitResult identity outcome)
    ⟨by simp, .none, by rw [perform, committed]; rfl⟩, ?_⟩
  have sameNodes : follower.plan.successors identity.nodeId =
      leader.plan.successors identity.nodeId := by rw [related.plan]
  rw [sameNodes] at right
  have control : ControlFollows next answer := by
    have before := related.control
    rw [ControlFollows, left.frame, right.frame]
    exact before
  exact ⟨leads, related.follows.commitResult committed,
    by rw [left.plan, right.plan]; exact related.plan,
    related.released left right, control⟩

/-- Every call on the leader is answered by calls on the follower. -/
theorem answers (related : Follows leader follower)
    {operation : SchedulerOperation} {next : ConcurrentScheduler}
    (moves : callSystem.Step leader operation next) :
    ∃ answer, callSystem.Leads follower answer ∧ Follows next answer := by
  obtain ⟨ordinary, result, answered⟩ := moves
  have leads := related.leads.perform ordinary answered
  have still : next = leader →
      ∃ answer, callSystem.Leads follower answer ∧ Follows next answer := by
    rintro rfl
    exact ⟨follower, .refl, related⟩
  cases operation with
  | registerAdmission identity fence =>
      obtain ⟨_, answered, _⟩ := reply_ok answered
      exact related.registerAdmission answered
  | commitResult identity outcome =>
      obtain ⟨_, answered, _⟩ := reply_ok answered
      exact related.commitResult answered
  | scheduleRetry identity eligible reason =>
      obtain ⟨_, answered, _⟩ := reply_ok answered
      exact related.scheduleRetry answered
  | resume =>
      obtain ⟨_, answered, _⟩ := reply_ok answered
      exact related.resume answered
  | markResultReceived identity =>
      -- The leader's work stays in flight.
      obtain ⟨_, answered, _⟩ := reply_ok answered
      obtain ⟨admitted, rfl⟩ := markResultReceived_ok answered
      refine ⟨follower, .refl, related.stays leads rfl (fun other => ?_)
        related.control⟩
      by_cases same : other = identity
      · simp [phaseOf, same, admitted, FrontierWorkState.phase]
      · simp [phaseOf, same]
  | retryEligible now =>
      -- Waiting work and ready work are in one phase.
      obtain ⟨_, answered, _⟩ := reply_ok answered
      obtain ⟨rfl, rfl⟩ := retryEligible_ok answered
      refine ⟨follower, .refl, related.stays leads rfl (fun other => ?_)
        related.control⟩
      by_cases isDue : other ∈ leader.due now
      · have before := related.leads.waiting_of_due isDue
        simp [phaseOf, isDue, before, FrontierWorkState.phase]
      · simp [phaseOf, isDue]
  | requestPause =>
      obtain ⟨_, answered, _⟩ := reply_ok answered
      obtain ⟨runs, _, rfl⟩ := advance_ok answered
      exact ⟨follower, .refl, related.stays leads rfl (fun _ => rfl)
        (.inl (related.running (by simp [runs])))⟩
  | markPaused =>
      obtain ⟨_, answered, _⟩ := reply_ok answered
      obtain ⟨runs, rfl⟩ := switch_ok answered
      exact ⟨follower, .refl, related.stays leads rfl (fun _ => rfl)
        (.inl (related.running (by simp [runs])))⟩
  | abortPause =>
      obtain ⟨_, answered, _⟩ := reply_ok answered
      obtain ⟨runs, _, rfl⟩ := advance_ok answered
      exact ⟨follower, .refl, related.stays leads rfl (fun _ => rfl)
        (.inl (related.running (by simp [runs])))⟩
  | requestCancel =>
      obtain ⟨_, answered, _⟩ := reply_ok answered
      obtain ⟨_, rfl⟩ := switch_ok answered
      exact ⟨follower, .refl, related.stays leads rfl (fun _ => rfl)
        (.inr (.inl (by simp)))⟩
  | markRecoveryRequired reason =>
      obtain ⟨_, answered, _⟩ := reply_ok answered
      obtain ⟨_, _, rfl⟩ := markRecoveryRequired_ok answered
      exact ⟨follower, .refl, related.stays leads rfl (fun _ => rfl)
        (.inr (.inl (by simp)))⟩
  | restore frontier => exact absurd rfl (ordinary frontier)
  | nextReady _ | frontier | isFinished | failedNodeIds =>
      obtain ⟨_, same, _⟩ := reply_ok answered
      exact still (Prod.mk.inj same).2.symm

/-- A follower can complete whatever its leader can. -/
theorem completes (related : Follows leader follower)
    (completable : leader.Completes identity) :
    follower.Completes identity := by
  obtain ⟨last, leads, state, found, isTerminal⟩ := completable
  obtain ⟨answer, reached, later⟩ := leads.followed
    (fun _ _ _ _ follows moves => follows.answers moves) related
  obtain ⟨other, there, same⟩ := later.state found
  rw [FrontierWorkState.phase_terminal isTerminal same] at there
  exact ⟨answer, reached, state, there, isTerminal⟩

end Follows

end ConcurrentScheduler

end ParityGrid.Application
