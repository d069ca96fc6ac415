import ParityGrid.Application.Execution.Coordination

/-!
# Admission wake-ups

Which sections of a coordinator leave a parked call unnotified although all
three of its levels may be granted.  Releases and `close` notify the condition;
a call that leaves the queues, granted or not, does not.
-/

namespace ParityGrid.Application

open Foundation

namespace ScheduledWorkLimiters

variable {limiters : ScheduledWorkLimiters}

/-- Every parked call that may be granted has been notified. -/
def Awaited (limiters : ScheduledWorkLimiters) : Prop :=
  ∀ call ∈ limiters.parked,
    limiters.mayGrantAll call.owner call.node → call.notified = true

instance (limiters : ScheduledWorkLimiters) : Decidable limiters.Awaited :=
  inferInstanceAs (Decidable (∀ call ∈ limiters.parked, _))

/-! ## Which turns strand a call -/

/-- The clock does not read an instant before the deadline. -/
def elapsed (call : ParkedCall) (checking : Reading) : Bool :=
  match checking with
  | .ok now => decide (call.deadline ≤ now)
  | .error _ => true

/-- The turn of a parked call takes a slot of every level. -/
def grants (limiters : ScheduledWorkLimiters) (call : ParkedCall)
    (clock : AcquireClock) : Bool :=
  !limiters.closed && !elapsed call clock.checking &&
    limiters.mayGrantAll call.owner call.node

/-- The turn of a parked call waits for the condition again. -/
def waits (limiters : ScheduledWorkLimiters) (call : ParkedCall)
    (clock : AcquireClock) : Bool :=
  !limiters.closed && !elapsed call clock.checking &&
    !limiters.mayGrantAll call.owner call.node && clock.waiting.isOk

/-- How many slots of a level a turn takes. -/
def takes (limiters : ScheduledWorkLimiters) (call : ParkedCall)
    (clock : AcquireClock) (level : Level) : Nat :=
  if limiters.grants call clock && decide (level ∈ levelsOf call.node) then 1
  else 0

/-- A call ends, and an unnotified one behind it is first at every level and
finds a slot there. -/
def Strands (limiters : ScheduledWorkLimiters) (call : ParkedCall)
    (clock : AcquireClock) (behind : ParkedCall) : Prop :=
  limiters.waits call clock = false ∧ behind.owner ≠ call.owner ∧
    behind.notified = false ∧
    ∀ level ∈ levelsOf behind.node,
      ((limiters.ledger level).waiters.erase call.owner).head? =
          some behind.owner ∧
        limiters.takes call clock level <
          (limiters.ledger level).freeSlots.length

/-- No turn strands a parked call. -/
def Settles (limiters : ScheduledWorkLimiters) : ScheduledOp → Prop
  | .wake call clock =>
      ∀ behind ∈ limiters.parked, ¬ limiters.Strands call clock behind
  | _ => True

/-! ## The queues of parked calls -/

theorem mayGrantAll_iff {owner node : Text} :
    limiters.mayGrantAll owner node ↔
      ∀ level ∈ levelsOf node, (limiters.ledger level).mayGrant owner := by
  simp [mayGrantAll]

/-- A waiting owner may be granted a free slot when it is first. -/
theorem mayGrant_iff {ledger : Ledger} {owner : Text}
    (inside : owner ∈ ledger.waiters) :
    ledger.mayGrant owner ↔
      ledger.waiters.head? = some owner ∧ 0 < ledger.freeSlots.length := by
  cases waiters : ledger.waiters with
  | nil => simp [waiters] at inside
  | cons first rest =>
      simp [Ledger.mayGrant, waiters, List.length_pos_iff, and_comm]

theorem Coordinated.waiting (coordinated : limiters.Coordinated)
    {call : ParkedCall} (member : call ∈ limiters.parked) {level : Level}
    (inside : level ∈ levelsOf call.node) :
    call.owner ∈ (limiters.ledger level).waiters := by
  rw [coordinated.queues, waitersAt]
  exact List.mem_map.mpr
    ⟨call, List.mem_filter.mpr ⟨member, by simp [inside]⟩, rfl⟩

/-- Nobody is parked when nobody waits globally. -/
theorem Coordinated.parked_nil (coordinated : limiters.Coordinated)
    {level : Level} (shared : level = .global ∨ level = .strategy)
    (empty : (limiters.ledger level).waiters = []) :
    limiters.parked = [] := by
  rw [List.eq_nil_iff_forall_not_mem]
  intro call member
  have here : level ∈ levelsOf call.node := by
    rcases shared with rfl | rfl <;> simp [levelsOf]
  have inside := coordinated.waiting member here
  rw [empty] at inside
  exact absurd inside List.not_mem_nil

/-- A call waits at its own levels only. -/
theorem Coordinated.erase_elsewhere (coordinated : limiters.Coordinated)
    {call : ParkedCall} (member : call ∈ limiters.parked) {level : Level}
    (elsewhere : level ∉ levelsOf call.node) :
    (limiters.ledger level).waiters.erase call.owner =
      (limiters.ledger level).waiters := by
  apply List.erase_of_not_mem
  rw [coordinated.queues, waitersAt]
  intro inside
  obtain ⟨other, found, same⟩ := List.mem_map.mp inside
  obtain ⟨parked, here⟩ := List.mem_filter.mp found
  rw [List.inj_on_of_nodup_map coordinated.apart parked member same] at here
  exact elsewhere (by simpa using here)

/-! ## What a section does to the others -/

theorem awaited_of_notified
    (notified : ∀ call ∈ limiters.parked, call.notified = true) :
    limiters.Awaited :=
  fun call member _ => notified call member

theorem notifyAll_awaited (limiters : ScheduledWorkLimiters) :
    limiters.notifyAll.Awaited := by
  apply awaited_of_notified
  intro call member
  obtain ⟨before, _, rfl⟩ := List.mem_map.mp member
  rfl

/-- Whoever leaves the queues decides who is first in them. -/
theorem Coordinated.leaving (coordinated : limiters.Coordinated)
    (call : ParkedCall) {after : ScheduledWorkLimiters} (taken : Level → Nat)
    (parked : after.parked =
      without ParkedCall.owner call.owner limiters.parked)
    (waiters : ∀ level, (after.ledger level).waiters =
      (limiters.ledger level).waiters.erase call.owner)
    (free : ∀ level, 0 < (after.ledger level).freeSlots.length ↔
      taken level < (limiters.ledger level).freeSlots.length) :
    after.Awaited ↔ ∀ behind ∈ limiters.parked,
      behind.owner ≠ call.owner → behind.notified = false →
      ¬ ∀ level ∈ levelsOf behind.node,
        ((limiters.ledger level).waiters.erase call.owner).head? =
            some behind.owner ∧
          taken level < (limiters.ledger level).freeSlots.length := by
  have granted (behind : ParkedCall) (member : behind ∈ limiters.parked)
      (apart : behind.owner ≠ call.owner) :
      after.mayGrantAll behind.owner behind.node ↔
        ∀ level ∈ levelsOf behind.node,
          ((limiters.ledger level).waiters.erase call.owner).head? =
              some behind.owner ∧
            taken level < (limiters.ledger level).freeSlots.length := by
    rw [mayGrantAll_iff]
    refine forall₂_congr fun level here => ?_
    have inside : behind.owner ∈ (after.ledger level).waiters := by
      rw [waiters level]
      exact (List.mem_erase_of_ne apart).mpr
        (coordinated.waiting member here)
    rw [mayGrant_iff inside, waiters level, free level]
  simp only [Awaited, parked, mem_without, and_imp]
  refine forall₂_congr fun behind member => forall_congr' fun apart => ?_
  rw [granted behind member apart]
  cases behind.notified <;> simp

@[simp]
theorem enqueueAll_parked (limiters : ScheduledWorkLimiters)
    (owner node : Text) :
    (limiters.enqueueAll owner node).parked = limiters.parked := rfl

@[simp]
theorem leave_parked (limiters : ScheduledWorkLimiters)
    (owner node : Text) :
    (limiters.leave owner node).parked =
      without ParkedCall.owner owner limiters.parked := rfl

@[simp]
theorem grantAll_parked (limiters : ScheduledWorkLimiters)
    (owner node : Text) :
    (limiters.grantAll owner node).2.parked = limiters.parked := rfl

theorem grantAll_ledger (limiters : ScheduledWorkLimiters)
    (owner node : Text) (level : Level) :
    (limiters.grantAll owner node).2.ledger level =
      if level ∈ levelsOf node then (limiters.ledger level).grant owner
      else limiters.ledger level := by
  cases level <;>
    simp [grantAll, ScheduledWorkLimiters.grant, levelsOf]

theorem policed_eq_ok {α : Type} {result : Except ClockPolicyError α}
    {value : α} : policed result = .ok value ↔ result = .ok value := by
  cases result <;> simp [policed, Except.mapError]

theorem requireBefore_eq_ok (call : ParkedCall) (checking : Reading)
    (message : String) (u : Unit) :
    requireBefore (some call.deadline) checking message = .ok u ↔
      elapsed call checking = false := by
  simp only [requireBefore, bind_eq_ok, policed_eq_ok, require_eq_ok,
    decide_eq_true_eq, elapsed]
  cases checking with
  | error error => simp
  | ok now => simp

theorem requireWait_eq_ok (call : ParkedCall) (waiting : Reading)
    (message : String) (u : Unit) :
    requireWait (some call.deadline) waiting message = .ok u ↔
      waiting.isOk = true := by
  simp only [requireWait, map_eq_ok, policed_eq_ok]
  cases waiting <;> simp [Except.isOk, Except.toBool]

/-- How a turn of a parked call ends. -/
theorem attempt_wake (limiters : ScheduledWorkLimiters) (call : ParkedCall)
    (clock : AcquireClock) :
    (limiters.attempt call.owner call.node (some call.deadline)
        clock.checking clock.waiting = .ok true ↔
      limiters.grants call clock = true) ∧
    (limiters.attempt call.owner call.node (some call.deadline)
        clock.checking clock.waiting = .ok false ↔
      limiters.waits call clock = true) := by
  simp only [attempt, bind_eq_ok, require_eq_ok, requireBefore_eq_ok, grants,
    waits, Bool.and_eq_true, Bool.not_eq_true', exists_const, and_assoc]
  cases may : limiters.mayGrantAll call.owner call.node with
  | true => simp [pure, Except.pure]
  | false =>
      simp [bind_eq_ok, requireWait_eq_ok, pure, Except.pure]

/-- A call that waits may not be granted, and disturbs nobody. -/
theorem park_awaited (awaited : limiters.Awaited) {call : ParkedCall}
    (denied : limiters.mayGrantAll call.owner call.node = false) :
    (limiters.park call).Awaited := by
  intro other member may
  have before : limiters.mayGrantAll other.owner other.node := may
  rcases of_mem_rejoin member with rfl | inside
  · rw [denied] at before
    exact absurd before Bool.false_ne_true
  · exact awaited other inside.1 before

theorem Coordinated.leave_waiters (coordinated : limiters.Coordinated)
    {call : ParkedCall} (member : call ∈ limiters.parked) (level : Level) :
    ((limiters.leave call.owner call.node).ledger level).waiters =
      (limiters.ledger level).waiters.erase call.owner := by
  rw [leave_ledger]
  split
  · rfl
  next elsewhere => exact (coordinated.erase_elsewhere member elsewhere).symm

/-- A slot of every level of the call is gone. -/
theorem grantAll_freeSlots {owner node : Text}
    (may : limiters.mayGrantAll owner node) (level : Level) :
    0 < ((limiters.grantAll owner node).2.ledger level).freeSlots.length ↔
      (if level ∈ levelsOf node then 1 else 0) <
        (limiters.ledger level).freeSlots.length := by
  rw [grantAll_ledger]
  split
  next here =>
    have granted := mayGrantAll_iff.mp may level here
    simp only [Ledger.mayGrant, Bool.and_eq_true, Bool.not_eq_true',
      List.isEmpty_eq_false_iff] at granted
    simp only [Ledger.grant,
      List.length_erase_of_mem (Ledger.nextSlot_mem granted.1)]
    omega
  · rfl

/-- A turn of a parked call strands nobody, or leaves the state unawaited. -/
theorem Coordinated.wake_awaited (coordinated : limiters.Coordinated)
    (awaited : limiters.Awaited) {call : ParkedCall}
    (member : call ∈ limiters.parked) (clock : AcquireClock) :
    (limiters.wake call clock).2.Awaited ↔
      ∀ behind ∈ limiters.parked,
        ¬ limiters.Strands call clock behind := by
  obtain ⟨granting, waiting⟩ := limiters.attempt_wake call clock
  simp only [ScheduledWorkLimiters.wake, ScheduledWorkLimiters.resume]
  split
  next error failed =>
    have notWaits : limiters.waits call clock = false := by
      rw [← Bool.not_eq_true, ← waiting, failed]
      simp
    have notGrants : limiters.grants call clock = false := by
      rw [← Bool.not_eq_true, ← granting, failed]
      simp
    have none_ (level : Level) : limiters.takes call clock level = 0 := by
      simp [takes, notGrants]
    refine (coordinated.leaving call (fun _ => 0) rfl
      (coordinated.leave_waiters member) fun level => ?_).trans ?_
    · rw [leave_ledger]
      split <;> rfl
    · simp only [Strands, notWaits, none_, true_and, not_and]
  next granted =>
    have grants : limiters.grants call clock = true := granting.mp granted
    have notWaits : limiters.waits call clock = false := by
      rw [← Bool.not_eq_true, ← waiting, granted]
      simp
    have may := attempt_grants granted
    refine (coordinated.leaving call (limiters.takes call clock) ?_
      (fun level => ?_) fun level => ?_).trans ?_
    · rfl
    · rw [← coordinated.leave_waiters member level, leave_ledger,
        leave_ledger, grantAll_ledger]
      split
      · simp only [Ledger.dequeue, Ledger.grant]
        exact List.erase_of_not_mem
          ((coordinated.waiters_nodup level).not_mem_erase)
      · rfl
    · refine Iff.trans ?_ ((grantAll_freeSlots may level).trans ?_)
      · rw [leave_ledger]
        split <;> rfl
      · simp [takes, grants]
    · simp only [Strands, notWaits, true_and, not_and]
  next parked =>
    have waits : limiters.waits call clock = true := waiting.mp parked
    have denied : limiters.mayGrantAll call.owner call.node = false := by
      simp only [ScheduledWorkLimiters.waits, Bool.and_eq_true,
        Bool.not_eq_true'] at waits
      exact waits.1.2
    refine iff_of_true (park_awaited awaited denied) fun behind _ strands => ?_
    rw [strands.1] at waits
    exact absurd waits Bool.false_ne_true

/-! ## Calls that have not waited yet -/

/-- A call that enters and leaves the queues at once has done nothing. -/
theorem Coordinated.enqueueAll_leave (coordinated : limiters.Coordinated)
    {owner : Text} (fresh : ∀ call ∈ limiters.parked, call.owner ≠ owner)
    (node : Text) :
    (limiters.enqueueAll owner node).leave owner node = limiters := by
  have frame : (limiters.enqueueAll owner node).leave owner node =
      { limiters with
        ledger := ((limiters.enqueueAll owner node).leave owner node).ledger
        parked := without ParkedCall.owner owner limiters.parked } := rfl
  rw [frame]
  refine ScheduledWorkLimiters.ext rfl rfl (funext fun level => ?_) rfl ?_ rfl
  · show ((limiters.enqueueAll owner node).leave owner node).ledger level = _
    rw [leave_ledger, enqueueAll_ledger]
    split
    · have absent := coordinated.not_waiting fresh level
      simp [Ledger.enqueue, Ledger.dequeue, List.erase_append_right _ absent]
    · rfl
  · exact List.filter_eq_self.mpr fun call member => by
      simpa using fresh call member

/-- A call behind others leaves them first. -/
theorem Coordinated.enqueueAll_mayGrant (coordinated : limiters.Coordinated)
    {call : ParkedCall} (member : call ∈ limiters.parked)
    (owner node : Text) :
    (limiters.enqueueAll owner node).mayGrantAll call.owner call.node =
      limiters.mayGrantAll call.owner call.node := by
  rw [Bool.eq_iff_iff, mayGrantAll_iff, mayGrantAll_iff]
  refine forall₂_congr fun level here => ?_
  have inside := coordinated.waiting member here
  rw [enqueueAll_ledger]
  split
  · obtain ⟨first, rest, waiters⟩ := List.exists_cons_of_ne_nil
      (List.ne_nil_of_mem inside)
    simp [Ledger.mayGrant, Ledger.enqueue, waiters]
  · rfl

theorem Coordinated.resume_awaited (coordinated : limiters.Coordinated)
    (awaited : limiters.Awaited) {owner : Text}
    (fresh : ∀ call ∈ limiters.parked, call.owner ≠ owner) (node : Text)
    (deadline : Option Instant) (checking waiting : Reading) :
    ((limiters.enqueueAll owner node).resume owner node deadline checking
      waiting).2.Awaited := by
  have entered : (limiters.enqueueAll owner node).Awaited := by
    intro call member may
    rw [coordinated.enqueueAll_mayGrant member] at may
    exact awaited call member may
  simp only [ScheduledWorkLimiters.resume]
  split
  · rw [coordinated.enqueueAll_leave fresh]
    exact awaited
  next granted =>
    -- The call is first in the global queue, so nobody waited before it.
    have first := mayGrantAll_iff.mp (attempt_grants granted) .global
      (by simp [levelsOf])
    have empty : (limiters.ledger .global).waiters = [] := by
      have absent := coordinated.not_waiting fresh .global
      rw [enqueueAll_ledger, if_pos (by simp [levelsOf])] at first
      cases waiters : (limiters.ledger .global).waiters with
      | nil => rfl
      | cons head rest =>
          rw [waiters, List.mem_cons, not_or] at absent
          simp only [Ledger.mayGrant, Ledger.enqueue, waiters,
            List.cons_append, List.head?_cons, Option.all_some,
            Bool.and_eq_true, decide_eq_true_eq] at first
          exact absurd first.2.symm absent.1
    have nobody := coordinated.parked_nil (.inl rfl) empty
    intro call member
    simp only [leave_parked, grantAll_parked, enqueueAll_parked] at member
    have inside : call ∈ limiters.parked := (mem_without.mp member).1
    rw [nobody] at inside
    exact absurd inside List.not_mem_nil
  next parked =>
    have denied : (limiters.enqueueAll owner node).mayGrantAll owner node =
        false := by
      simp only [attempt, bind_eq_ok] at parked
      obtain ⟨_, _, _, _, ends⟩ := parked
      split at ends
      · cases ends
      next denied => simpa using denied
    exact park_awaited entered denied

theorem Coordinated.acquire_awaited (coordinated : limiters.Coordinated)
    (awaited : limiters.Awaited) (owner node : Text)
    (deadline : Option Instant) (clock : AcquireClock) :
    (limiters.acquire owner node deadline clock).2.Awaited := by
  simp only [ScheduledWorkLimiters.acquire]
  split
  · exact awaited
  next admitted =>
    simp only [requireAdmission, bind_eq_ok, require_eq_ok, Bool.not_eq_true',
      isPendingOrHolding, Bool.or_eq_false_iff] at admitted
    obtain ⟨_, _, _, _, _, _, _, _, _, ⟨⟨⟨free, _⟩, _⟩, _⟩, _⟩ := admitted
    exact coordinated.resume_awaited awaited
      (coordinated.not_parked (by simp [free])) node deadline _ _

/-- A single level is granted to an owner only when nobody waits for it. -/
theorem Coordinated.acquireLevel_awaited (coordinated : limiters.Coordinated)
    (awaited : limiters.Awaited) {category owner : Text}
    {nodeId : Option Text} {granted : CapacityPermit × ScheduledWorkLimiters}
    (returned : limiters.acquireLevel category owner nodeId = .ok granted) :
    granted.2.Awaited := by
  have may : ∃ level, granted = limiters.grant level owner ∧
      (limiters.ledger level).mayGrant owner := by
    simp only [ScheduledWorkLimiters.acquireLevel, bind_eq_ok, require_eq_ok]
      at returned
    obtain ⟨_, _, _, _, _, _, level, _, _, _, _, _, _, _, _, _, _, may,
      same⟩ := returned
    cases same
    exact ⟨level, rfl, may⟩
  obtain ⟨_, same, _, fresh, _⟩ := coordinated.acquireLevel returned
  obtain ⟨level, rfl, may⟩ := may
  have empty : (limiters.ledger level).waiters = [] := by
    have absent := coordinated.not_waiting fresh level
    cases waiters : (limiters.ledger level).waiters with
    | nil => rfl
    | cons head rest =>
        rw [waiters, List.mem_cons, not_or] at absent
        simp only [Ledger.mayGrant, waiters, List.head?_cons, Option.all_some,
          Bool.and_eq_true, decide_eq_true_eq] at may
        exact absurd may.2.symm absent.1
  intro call member granted
  apply awaited call member
  rw [mayGrantAll_iff] at granted ⊢
  intro other here
  have after := granted other here
  simp only [ScheduledWorkLimiters.grant, update_ledger] at after
  split at after
  next same =>
    have inside := coordinated.waiting member here
    rw [same, empty] at inside
    exact absurd inside List.not_mem_nil
  · exact after

/-- After a section every grantable call is notified, unless it strands one. -/
theorem Coordinated.perform_awaited (coordinated : limiters.Coordinated)
    (awaited : limiters.Awaited) {op : ScheduledOp}
    (enabled : limiters.Enabled op) :
    (limiters.perform op).Awaited ↔ limiters.Settles op := by
  have settles {result : Except CapacityError ScheduledWorkLimiters}
      (awaits : ∀ next, result = .ok next → next.Awaited) :
      (limiters.settled result).Awaited := by
    cases result with
    | ok next => exact awaits next rfl
    | error _ => exact awaited
  cases op with
  | wake call clock => exact coordinated.wake_awaited awaited enabled clock
  | acquire owner node deadline clock =>
      exact iff_of_true
        (coordinated.acquire_awaited awaited owner node deadline clock)
        trivial
  | acquireLevel category owner nodeId =>
      refine iff_of_true (settles fun next mapped => ?_) trivial
      obtain ⟨granted, returned, rfl⟩ := map_eq_ok.mp mapped
      exact coordinated.acquireLevel_awaited awaited returned
  | release owner node =>
      refine iff_of_true (settles fun next returned => ?_) trivial
      obtain ⟨rfl, _⟩ := release_eq_ok returned
      exact notifyAll_awaited _
  | releaseLevel category owner nodeId =>
      refine iff_of_true (settles fun next returned => ?_) trivial
      obtain ⟨_, rfl, _⟩ := coordinated.released returned
      exact notifyAll_awaited _
  | registerSubordinate owner permit =>
      refine iff_of_true (settles fun next returned => ?_) trivial
      simp only [ScheduledWorkLimiters.registerSubordinate, bind_eq_ok]
        at returned
      obtain ⟨_, _, _, _, _, _, _, _, same⟩ := returned
      cases same
      exact awaited
  | unregisterSubordinate owner permit =>
      refine iff_of_true (settles fun next returned => ?_) trivial
      simp only [ScheduledWorkLimiters.unregisterSubordinate, bind_eq_ok]
        at returned
      obtain ⟨_, _, _, _, same⟩ := returned
      cases same
      exact awaited
  | close =>
      refine iff_of_true ?_ trivial
      simp only [ScheduledWorkLimiters.perform, ScheduledWorkLimiters.close]
      split
      · exact awaited
      · exact notifyAll_awaited _

/-! ## The system -/

/-- A parked call runs after a notification, or at its own deadline. -/
def Delivered : ScheduledOp → Prop
  | .wake call clock => call.notified = true ∨ elapsed call clock.checking
  | _ => True

/-- Every interleaving of sections of one new coordinator. -/
def admissionSystem (settings : CapturedConcurrencySettings)
    (strategyId : Text) (nodeIds : List Text) :
    TransitionSystem ScheduledWorkLimiters ScheduledOp where
  Initial limiters := create settings strategyId nodeIds = .ok limiters
  Step limiters op next :=
    limiters.Enabled op ∧ Delivered op ∧ next = limiters.perform op

variable {settings : CapturedConcurrencySettings} {strategyId : Text}
  {nodeIds : List Text}

theorem create_awaited
    (created : create settings strategyId nodeIds = .ok limiters) :
    limiters.Awaited := by
  simp only [create, bind_eq_ok] at created
  obtain ⟨_, _, _, _, _, _, _, _, same⟩ := created
  cases same
  exact fun call member => absurd member List.not_mem_nil

/-- What runs that strand nobody keep. -/
structure Attended (limiters : ScheduledWorkLimiters) : Prop extends
    limiters.Coordinated where
  awaited : limiters.Awaited

/-- No wake-up is lost in a run that strands nobody, and exactly the sections
that strand somebody lose one. -/
theorem admission_awaited
    (reachable : ((admissionSystem settings strategyId nodeIds).restrict
      Settles).Reachable limiters) :
    limiters.Awaited ∧ ∀ op next,
      (admissionSystem settings strategyId nodeIds).Step limiters op next →
        (next.Awaited ↔ limiters.Settles op) := by
  have attended : limiters.Attended := by
    refine reachable.invariant (fun _ created =>
      ⟨create_coordinated created, create_awaited created⟩) ?_
    rintro before op after _ ⟨coordinated, awaited⟩ ⟨⟨enabled, _, rfl⟩, settles⟩
    exact ⟨coordinated.perform enabled,
      (coordinated.perform_awaited awaited enabled).mpr settles⟩
  refine ⟨attended.awaited, ?_⟩
  rintro op next ⟨enabled, _, rfl⟩
  exact attended.toCoordinated.perform_awaited attended.awaited enabled

/-- A call that has not waited yet strands nobody. -/
theorem reachable_acquire
    (reachable : ((admissionSystem settings strategyId nodeIds).restrict
      Settles).Reachable limiters)
    (owner node : Text) (deadline : Option Instant) (clock : AcquireClock) :
    ((admissionSystem settings strategyId nodeIds).restrict
      Settles).Reachable
        (limiters.perform (.acquire owner node deadline clock)) := by
  let op : ScheduledOp := .acquire owner node deadline clock
  have moves : ((admissionSystem settings strategyId nodeIds).restrict
      Settles).Step limiters op (limiters.perform op) :=
    ⟨⟨trivial, trivial, rfl⟩, trivial⟩
  exact .step reachable moves

section Sample

def sampleSettings : CapturedConcurrencySettings :=
  ⟨2, 2, 1, twoUnits_valid, twoUnits_valid, oneUnit_valid⟩

def sampleNodes : List Text := [text "east", text "west"]

/-- The clock reads one instant throughout a section. -/
def readsAt (now : Instant) : AcquireClock := ⟨.ok now, .ok now, .ok now⟩

def sampleNew : ScheduledWorkLimiters where
  strategyId := text "parallel"
  nodeIds := sampleNodes
  ledger := newLedger sampleSettings
  subordinates := fun _ => []
  parked := []
  closed := false

/-- The first unit holds the east node; the second waits for it until 10, and
the third waits for the free west node behind it. -/
def sampleWaiting : ScheduledWorkLimiters :=
  ((sampleNew.perform
    (.acquire (text "unit-1") (text "east") none (readsAt 0))).perform
    (.acquire (text "unit-2") (text "east") (some 10) (readsAt 0))).perform
    (.acquire (text "unit-3") (text "west") (some 100) (readsAt 0))

/-- The second unit times out. -/
def sampleStranded : ScheduledWorkLimiters :=
  sampleWaiting.perform
    (.wake ⟨text "unit-2", text "east", 10, false⟩ (readsAt 10))

theorem sampleNew_created :
    create sampleSettings (text "parallel") sampleNodes = .ok sampleNew := by
  simp only [create, bind_eq_ok]
  exact ⟨(), by decide, (), by decide, (), by decide,
    (), by decide, rfl⟩

theorem sampleWaiting_reachable :
    ((admissionSystem sampleSettings (text "parallel") sampleNodes).restrict
      Settles).Reachable sampleWaiting :=
  reachable_acquire (reachable_acquire (reachable_acquire
    (.initial sampleNew_created) _ _ _ _) _ _ _ _) _ _ _ _

theorem admission_awaited_sample :
    sampleWaiting.parked.length = 2 ∧
      sampleWaiting.Awaited ∧ ∀ op next,
        (admissionSystem sampleSettings (text "parallel")
          sampleNodes).Step sampleWaiting op next →
            (next.Awaited ↔ sampleWaiting.Settles op) :=
  ⟨by decide, admission_awaited sampleWaiting_reachable⟩

/-- A parked call that may be granted is left without a notification. -/
theorem admission_strands :
    (admissionSystem sampleSettings (text "parallel") sampleNodes).Reachable
        sampleStranded ∧
      ¬ sampleStranded.Awaited := by
  have moves : (admissionSystem sampleSettings (text "parallel")
      sampleNodes).Step sampleWaiting
        (.wake ⟨text "unit-2", text "east", 10, false⟩ (readsAt 10))
        sampleStranded := by
    refine ⟨?_, .inr (by decide), rfl⟩
    show _ ∈ sampleWaiting.parked
    decide
  exact ⟨.step sampleWaiting_reachable.of_restrict moves, by decide⟩

end Sample

end ScheduledWorkLimiters

end ParityGrid.Application
