import ParityGrid.Application.Execution.SchedulerRuns

/-!
# Failed calls of a scheduler

Any call may follow any other, failed ones included, and `restore` may be
given any frontier.  Whatever was called before, exactly the work of the plan
has a state; so the loop that releases successors never raises, and a call
that raises has left everything as it was.  The one exception builds its
retry wait after the work has moved.
-/

namespace ParityGrid.Application

open ParityGrid.Foundation

namespace ConcurrentScheduler

variable {α : Type} {scheduler next : ConcurrentScheduler}
variable {identity : WorkIdentity}

/-! ## Calls that raise before they change anything -/

/-- When the answer is an exception, the scheduler is as it was. -/
def Stays (scheduler : ConcurrentScheduler) (answer : SchedulerAnswer α) :
    Prop :=
  ∀ failure, answer.1 = .error failure → answer.2 = scheduler

theorem Stays.raised (failure : SchedulerError) :
    scheduler.Stays ((.error failure, scheduler) : SchedulerAnswer α) :=
  fun _ _ => rfl

theorem Stays.returned (value : α) (next : ConcurrentScheduler) :
    scheduler.Stays (.ok value, next) := by
  intro failure raised
  cases raised

/-- A read leaves the scheduler alone. -/
theorem Stays.read (outcome : Except SchedulerError α) :
    scheduler.Stays (outcome, scheduler) :=
  fun _ _ => rfl

theorem Stays.reply {answer : SchedulerAnswer α} (kind : α → SchedulerReply)
    (stays : scheduler.Stays answer) :
    scheduler.Stays (reply kind answer) := by
  rcases answer with ⟨outcome | outcome, left⟩
  · intro _ _
    exact stays outcome rfl
  · exact Stays.returned _ _

theorem registerAdmission_stays (identity : WorkIdentity) (fence : Int) :
    scheduler.Stays (scheduler.registerAdmission identity fence) := by
  unfold registerAdmission
  split
  · exact .raised _
  · split
    · exact .raised _
    · split
      · exact .raised _
      · split
        · exact .raised _
        · split
          · exact .raised _
          · exact .returned _ _

theorem markResultReceived_stays (identity : WorkIdentity) :
    scheduler.Stays (scheduler.markResultReceived identity) := by
  unfold markResultReceived
  split
  · exact .raised _
  · split
    · exact .raised _
    · exact .returned _ _

/-- A commit raises only in its checks: the loop that releases successors
reads work that has a state. -/
theorem commitResult_stays (holds : Tracked scheduler)
    (identity : WorkIdentity) (outcome : Text) :
    scheduler.Stays (scheduler.commitResult identity outcome) := by
  unfold commitResult
  split
  · exact .raised _
  · rename_i terminal _
    split
    · exact .raised _
    · split
      · exact .raised _
      · rename_i state found
        split
        · exact .raised _
        · obtain ⟨released, looped, _⟩ :=
            (holds.settled found terminal).releaseEach
              (scheduler.plan.successors identity.nodeId)
          change scheduler.Stays ((scheduler.settled identity terminal).releaseEach
            (scheduler.plan.successors identity.nodeId))
          rw [looped]
          exact .returned _ _

theorem retryEligible_stays (now : Int) :
    scheduler.Stays (scheduler.retryEligible now) := by
  unfold retryEligible
  split
  · exact .raised _
  · exact .returned _ _

theorem advance_stays (expected target : ContractLifecycleState)
    (action : String) :
    scheduler.Stays (scheduler.advance expected target action) := by
  unfold advance
  split
  · exact .raised _
  · exact .returned _ _

theorem switch_stays (expected target : ContractLifecycleState)
    (action : String) :
    scheduler.Stays (scheduler.switch expected target action) := by
  unfold switch
  split
  · exact .raised _
  · exact .returned _ _

theorem markRecoveryRequired_stays (reason : Text) :
    scheduler.Stays (scheduler.markRecoveryRequired reason) := by
  unfold markRecoveryRequired
  split
  · exact .raised _
  · split
    · exact .returned _ _
    · exact .raised _

theorem restore_stays (frontier : SchedulerFrontierV2) :
    scheduler.Stays (scheduler.restore frontier) := by
  unfold restore
  split
  · exact .raised _
  · exact .returned _ _

/-! ## The call that moves work first -/

/-- A retry whose checks all pass, with an eligibility that the retry wait
refuses. -/
structure Overruns (scheduler : ConcurrentScheduler)
    (identity : WorkIdentity) (eligibleAtMicros : Int) (reason : Text) :
    Prop where
  inFlight : scheduler.InFlight identity
  described : isPlainText maxFrontierReasonLength reason
  late : maxFrontierRetryEligibilityMicros < eligibleAtMicros

/-- The work that such a call leaves: it waits, without a wait. -/
def stranded (scheduler : ConcurrentScheduler) (identity : WorkIdentity) :
    ConcurrentScheduler :=
  { scheduler with
    states := Function.update scheduler.states identity (some .retryWait)
    fences := Function.update scheduler.fences identity none }

theorem scheduleRetry_overruns {eligible : Int} {reason : Text}
    (overruns : scheduler.Overruns identity eligible reason) :
    scheduler.scheduleRetry identity eligible reason =
      (.error (.invalidState
        "frontier retry wait eligibility is outside the supported range"),
        scheduler.stranded identity) := by
  obtain ⟨state, found, inFlight⟩ := overruns.inFlight
  have nonneg : ¬eligible < 0 := by
    have late := overruns.late
    rw [maxFrontierRetryEligibilityMicros] at late
    omega
  have described : requireReasonText reason "scheduler retry reason" = .ok () :=
    requirePlainText_eq_ok.mpr overruns.described
  have refused : FrontierRetryWait.create identity eligible reason =
      .error (.invalidState
        "frontier retry wait eligibility is outside the supported range") :=
    dif_neg fun range => absurd range.2 (not_le.mpr overruns.late)
  unfold scheduleRetry
  rw [if_neg nonneg, described]
  dsimp only
  rw [found]
  dsimp only
  rw [if_neg (by simp [inFlight]), refused]
  rfl

theorem scheduleRetry_stays {eligible : Int} {reason : Text}
    (within : ¬scheduler.Overruns identity eligible reason) :
    scheduler.Stays (scheduler.scheduleRetry identity eligible reason) := by
  unfold scheduleRetry
  split
  · exact .raised _
  · rename_i nonneg
    split
    · exact .raised _
    · rename_i described
      split
      · exact .raised _
      · rename_i state found
        split
        · exact .raised _
        · rename_i inFlight
          have described : isPlainText maxFrontierReasonLength reason :=
            requirePlainText_eq_ok.mp described
          have bounded : eligible ≤ maxFrontierRetryEligibilityMicros := by
            by_contra late
            exact within ⟨⟨state, found, by simpa using inFlight⟩, described,
              not_le.mp late⟩
          have created : FrontierRetryWait.create identity eligible reason =
              .ok ⟨identity, eligible, reason, ⟨not_lt.mp nonneg, bounded⟩,
                described⟩ :=
            FrontierRetryWait.create_eq_ok.mpr ⟨rfl, rfl, rfl⟩
          dsimp only
          rw [created]
          exact .returned _ _

/-! ## Every call -/

/-- The call schedules a retry that overruns. -/
def OverrunsIn (scheduler : ConcurrentScheduler) :
    SchedulerOperation → Prop
  | .scheduleRetry identity eligibleAtMicros reason =>
      scheduler.Overruns identity eligibleAtMicros reason
  | _ => False

theorem Tracked.perform_stays (holds : Tracked scheduler)
    {operation : SchedulerOperation}
    (within : ¬scheduler.OverrunsIn operation) :
    scheduler.Stays (scheduler.perform operation) := by
  cases operation with
  | nextReady limit => exact (Stays.read _).reply _
  | registerAdmission identity fence =>
      exact (registerAdmission_stays identity fence).reply _
  | markResultReceived identity =>
      exact (markResultReceived_stays identity).reply _
  | commitResult identity outcome =>
      exact (commitResult_stays holds identity outcome).reply _
  | scheduleRetry identity eligible reason =>
      exact (scheduleRetry_stays within).reply _
  | retryEligible now => exact (retryEligible_stays now).reply _
  | requestPause => exact (advance_stays _ _ _).reply _
  | markPaused => exact (switch_stays _ _ _).reply _
  | abortPause => exact (advance_stays _ _ _).reply _
  | resume => exact (advance_stays _ _ _).reply _
  | requestCancel => exact (switch_stays _ _ _).reply _
  | markRecoveryRequired reason =>
      exact (markRecoveryRequired_stays reason).reply _
  | restore frontier => exact (restore_stays frontier).reply _
  | frontier => exact (Stays.read _).reply _
  | isFinished => exact (Stays.read _).reply _
  | failedNodeIds => exact (Stays.read _).reply _

theorem perform_overruns {operation : SchedulerOperation}
    (overruns : scheduler.OverrunsIn operation) :
    ∃ identity, scheduler.InFlight identity ∧
      scheduler.perform operation = (.error (.invalidState
        "frontier retry wait eligibility is outside the supported range"),
        scheduler.stranded identity) := by
  cases operation
  case scheduleRetry identity eligible reason =>
    have retried := scheduleRetry_overruns overruns
    exact ⟨identity, overruns.inFlight,
      congrArg (reply fun _ => SchedulerReply.none) retried⟩
  all_goals exact absurd overruns (fun impossible => impossible)

/-- The components of a scheduler that its calls may change. -/
structure SameWork (before after : ConcurrentScheduler) : Prop where
  states : after.states = before.states
  fences : after.fences = before.fences
  retryWaits : after.retryWaits = before.retryWaits
  controlState : after.controlState = before.controlState
  controlGeneration : after.controlGeneration = before.controlGeneration

theorem not_sameWork_stranded (inFlight : scheduler.InFlight identity) :
    ¬SameWork scheduler (scheduler.stranded identity) := by
  intro same
  obtain ⟨state, found, flying⟩ := inFlight
  have waiting : (scheduler.stranded identity).states identity =
      some .retryWait := Function.update_self ..
  have moved := congrFun same.states identity
  rw [waiting, found, Option.some.injEq] at moved
  rw [← moved] at flying
  cases flying

/-- A call that raises leaves everything as it was, unless it schedules a
retry that overruns. -/
theorem Tracked.sameWork_iff (holds : Tracked scheduler)
    (operation : SchedulerOperation) :
    (∀ failure, (scheduler.perform operation).1 = .error failure →
        SameWork scheduler (scheduler.perform operation).2) ↔
      ¬scheduler.OverrunsIn operation := by
  constructor
  · intro atomic overruns
    obtain ⟨identity, inFlight, left⟩ := perform_overruns overruns
    have same := atomic _ (congrArg Prod.fst left)
    rw [left] at same
    exact not_sameWork_stranded inFlight same
  · intro within failure raised
    rw [holds.perform_stays within failure raised]
    exact ⟨rfl, rfl, rfl, rfl, rfl⟩

/-! ## Runs of calls, failed ones included -/

/-- The states of the work may change while the plan's work keeps one. -/
theorem Tracked.kept (holds : Tracked scheduler)
    (plan : next.plan = scheduler.plan)
    (states : next.states = scheduler.states) : Tracked next := by
  refine ⟨plan ▸ holds.plan, fun identity => ?_⟩
  rw [plan, states]
  exact holds.known identity

theorem Tracked.retried (holds : Tracked scheduler) {now : Int}
    (plan : next.plan = scheduler.plan)
    (states : next.states = fun identity =>
      if identity ∈ scheduler.due now then some .ready
      else scheduler.states identity) : Tracked next := by
  refine ⟨plan ▸ holds.plan, fun identity => ?_⟩
  rw [plan, states]
  dsimp only
  by_cases isDue : identity ∈ scheduler.due now
  · have inPlan := (List.mem_filter.mp (mem_sortedBy.mp isDue)).1
    rw [if_pos isDue]
    exact iff_of_true rfl inPlan
  · rw [if_neg isDue]
    exact holds.known identity

/-- A frontier is taken over only when it is about the same work. -/
theorem Tracked.restored (holds : Tracked scheduler)
    {frontier : SchedulerFrontierV2}
    (checked : scheduler.checkRestored frontier = .ok ())
    (plan : next.plan = scheduler.plan)
    (states : next.states =
      fun identity => frontier.workStates.lookup identity) :
    Tracked next := by
  simp only [checkRestored, check_bind_eq_ok, require_eq_ok,
    Bool.and_eq_true, List.all_eq_true, Bool.or_eq_true,
    decide_eq_true_eq] at checked
  obtain ⟨_, _, _, _, ⟨known, covered⟩, _⟩ := checked
  refine ⟨plan ▸ holds.plan, fun identity => ?_⟩
  rw [plan, states]
  dsimp only
  rw [lookup_isSome]
  change identity ∈ frontier.identities ↔ _
  constructor
  · intro member
    exact (holds.known identity).mp (known identity member)
  · intro inPlan
    have found := (holds.known identity).mpr inPlan
    rcases covered identity inPlan with missing | member
    · rw [Option.isNone_iff_eq_none] at missing
      rw [missing] at found
      cases found
    · exact member

theorem Tracked.performed (holds : Tracked scheduler)
    {operation : SchedulerOperation} {result : SchedulerReply}
    (answered : scheduler.perform operation = (.ok result, next)) :
    Tracked next := by
  cases operation with
  | nextReady _ | frontier | isFinished | failedNodeIds =>
      obtain ⟨_, same, _⟩ := reply_ok answered
      obtain rfl := (Prod.mk.inj same).2
      exact holds
  | registerAdmission identity fence =>
      obtain ⟨_, answered, _⟩ := reply_ok answered
      obtain ⟨_, ready, _, rfl⟩ := registerAdmission_ok answered
      exact holds.updated ready rfl rfl
  | markResultReceived identity =>
      obtain ⟨_, answered, _⟩ := reply_ok answered
      obtain ⟨admitted, rfl⟩ := markResultReceived_ok answered
      exact holds.updated admitted rfl rfl
  | commitResult identity outcome =>
      obtain ⟨_, answered, _⟩ := reply_ok answered
      obtain ⟨terminal, _, _, _, found, _, answered⟩ :=
        commitResult_ok answered
      have settled := holds.settled found terminal
      obtain ⟨released, looped, moved⟩ := settled.releaseEach
        (scheduler.plan.successors identity.nodeId)
      obtain rfl : released = next :=
        (Prod.mk.inj (looped.symm.trans answered)).2
      exact moved.tracked settled
  | scheduleRetry identity eligible reason =>
      obtain ⟨_, answered, _⟩ := reply_ok answered
      obtain ⟨_, _, found, _, _, rfl⟩ := scheduleRetry_ok answered
      exact holds.updated found rfl rfl
  | retryEligible now =>
      obtain ⟨_, answered, _⟩ := reply_ok answered
      obtain ⟨rfl, rfl⟩ := retryEligible_ok answered
      exact holds.retried rfl rfl
  | requestPause | abortPause | resume =>
      obtain ⟨_, answered, _⟩ := reply_ok answered
      obtain ⟨_, _, rfl⟩ := advance_ok answered
      exact holds.kept rfl rfl
  | markPaused | requestCancel =>
      obtain ⟨_, answered, _⟩ := reply_ok answered
      obtain ⟨_, rfl⟩ := switch_ok answered
      exact holds.kept rfl rfl
  | markRecoveryRequired reason =>
      obtain ⟨_, answered, _⟩ := reply_ok answered
      obtain ⟨_, _, rfl⟩ := markRecoveryRequired_ok answered
      exact holds.kept rfl rfl
  | restore frontier =>
      obtain ⟨_, answered, _⟩ := reply_ok answered
      obtain ⟨checked, rfl⟩ := restore_ok answered
      exact holds.restored checked rfl rfl

/-- Whatever a call answers, exactly the work of the plan has a state
afterwards. -/
theorem Tracked.perform (holds : Tracked scheduler)
    (operation : SchedulerOperation) :
    Tracked (scheduler.perform operation).2 := by
  by_cases overruns : scheduler.OverrunsIn operation
  · obtain ⟨identity, ⟨state, found, _⟩, left⟩ := perform_overruns overruns
    rw [left]
    exact holds.updated found rfl rfl
  · rcases answered : scheduler.perform operation with ⟨raised | result, next⟩
    · have same := holds.perform_stays overruns raised (by rw [answered])
      rw [answered] at same
      exact same ▸ holds
    · exact holds.performed answered

end ConcurrentScheduler

/-- All runs of one scheduler, whatever is called and whether or not the call
raises. -/
def callSystem (plan : SchedulerPlan) :
    TransitionSystem ConcurrentScheduler
      ConcurrentScheduler.SchedulerOperation where
  Initial scheduler := ∃ generation, scheduler = plan.start generation
  Step scheduler operation next := next = (scheduler.perform operation).2

open ConcurrentScheduler in
theorem callSystem_tracked {plan : SchedulerPlan} (coherent : plan.Coherent)
    {scheduler : ConcurrentScheduler}
    (reached : (callSystem plan).Reachable scheduler) : scheduler.Tracked := by
  refine TransitionSystem.Reachable.invariant ?_ ?_ reached
  · rintro state ⟨generation, rfl⟩
    exact (SchedulerInvariant.start coherent generation).toTracked
  · rintro state operation next _ holds rfl
    exact holds.perform operation

open ConcurrentScheduler in
/-- In every run of a scheduler, a call that raises leaves the states of the
work, fences, waits and the control state as they were, except when it
schedules a retry of work in flight, with a valid reason, beyond the last
eligibility that a retry wait may have. -/
theorem raises_sameWork_iff {runId planFingerprint : Text}
    {nodeOrder : List Text} {edges : List (Text × Text)}
    {partitionsByNode : List (Text × List Text)} {plan : SchedulerPlan}
    (created : SchedulerPlan.create runId planFingerprint nodeOrder edges
      partitionsByNode = .ok plan)
    {scheduler : ConcurrentScheduler}
    (reached : (callSystem plan).Reachable scheduler)
    (operation : SchedulerOperation) :
    (∀ failure, (scheduler.perform operation).1 = .error failure →
        SameWork scheduler (scheduler.perform operation).2) ↔
      ¬scheduler.OverrunsIn operation :=
  (callSystem_tracked (SchedulerPlan.create_coherent created)
    reached).sameWork_iff operation

section Sample

/-- The first work of the sample plan, once it is admitted. -/
theorem sampleAdmitted_called :
    (callSystem sampleSchedulerPlan).Reachable sampleAdmitted.scheduler :=
  .step (.initial ⟨⟨1, by decide⟩, rfl⟩) rfl

/-- A retry one microsecond beyond the last eligibility. -/
def sampleOverrun : ConcurrentScheduler.SchedulerOperation :=
  .scheduleRetry (sampleWork (text "nod_load") sampleLoad_plain)
    9007199254740992
    (text "timeout")

theorem raises_sameWork_iff_sample :
    (∀ failure,
        (sampleAdmitted.scheduler.perform .resume).1 = .error failure →
          ConcurrentScheduler.SameWork sampleAdmitted.scheduler
            (sampleAdmitted.scheduler.perform .resume).2) ↔
      ¬sampleAdmitted.scheduler.OverrunsIn .resume :=
  raises_sameWork_iff sampleSchedulerPlan_created sampleAdmitted_called _

/-- The call raises, and leaves work that waits without a wait and has lost
its fence. -/
theorem sampleOverrun_moves :
    (callSystem sampleSchedulerPlan).Reachable sampleAdmitted.scheduler ∧
      (sampleAdmitted.scheduler.perform sampleOverrun).1 =
        .error (.invalidState
          "frontier retry wait eligibility is outside the supported range") ∧
      sampleAdmitted.scheduler.states
          (sampleWork (text "nod_load") (by decide)) = some .admitted ∧
      (sampleAdmitted.scheduler.perform sampleOverrun).2.states
          (sampleWork (text "nod_load") (by decide)) = some .retryWait ∧
      (sampleAdmitted.scheduler.perform sampleOverrun).2.retryWaits
          (sampleWork (text "nod_load") (by decide)) = none := by
  refine ⟨sampleAdmitted_called, by decide, by decide,
    by decide, by decide⟩

end Sample

end ParityGrid.Application
