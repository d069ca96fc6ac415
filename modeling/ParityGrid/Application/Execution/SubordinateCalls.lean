import ParityGrid.Application.Execution.CapacityAccounting
import ParityGrid.Application.Execution.TokenBuckets

/-!
# Failed acquisitions of subordinate capacity

A call holds the limiter's lock from its first section to its last, or until
it waits; then it goes on from the section in which it is woken.  A call that
fails gives back what it took.  The one that does not: `acquire` takes its
slot before it asks the clock and the bucket, and an exception of either
passes by the undoing.
-/

namespace ParityGrid.Application

open Foundation
open ScheduledWorkLimiters (requireBounded requireBefore)

/-! ## Taking a slot and giving it back -/

/-- The same slots are held and free, and the same owners wait. -/
structure Ledger.SameSlots (before after : Ledger) : Prop where
  held : after.held = before.held
  free : ∀ slot, slot ∈ after.freeSlots ↔ slot ∈ before.freeSlots
  waiters : after.waiters = before.waiters

namespace Ledger

variable {ledger : Ledger} {owner : Text}

theorem SameSlots.refl (ledger : Ledger) : ledger.SameSlots ledger :=
  ⟨rfl, fun _ => Iff.rfl, rfl⟩

/-- Who takes a slot holds it. -/
theorem not_sameSlots_grant {before after : Ledger}
    (idle : ¬before.holds owner) (held : after.holds owner) :
    ¬before.SameSlots after := by
  intro same
  rw [holds, same.held] at held
  exact idle held

/-- A slot that is given back at once leaves no trace. -/
theorem sameSlots_ungrant_grant (free : ledger.freeSlots ≠ [])
    (idle : ¬ledger.holds owner)
    (left : owner ∉ (ledger.dequeue owner).waiters) :
    (ledger.dequeue owner).SameSlots
      (((ledger.grant owner).dequeue owner).ungrant owner) := by
  rw [holds_iff] at idle
  have held : ((ledger.grant owner).dequeue owner).held.lookup owner =
      some ledger.nextSlot :=
    lookup_alter_self owner _ ledger.held
  have back : ((ledger.grant owner).dequeue owner).ungrant owner =
      { ((ledger.grant owner).dequeue owner) with
        held := discard owner (ledger.grant owner).held
        freeSlots := (ledger.freeSlots.erase ledger.nextSlot).insert
          ledger.nextSlot } := by
    rw [ungrant, held]
    rfl
  rw [back]
  refine ⟨discard_alter_of_notMem idle, ?_, ?_⟩
  · intro slot
    show slot ∈ (ledger.freeSlots.erase ledger.nextSlot).insert
      ledger.nextSlot ↔ slot ∈ ledger.freeSlots
    rw [List.mem_insert_iff]
    by_cases next : slot = ledger.nextSlot
    · rw [next]
      exact iff_of_true (.inl rfl) (nextSlot_mem free)
    · rw [List.mem_erase_of_ne next]
      simp [next]
  · exact List.erase_of_not_mem left

theorem dequeue_absent (absent : owner ∉ ledger.waiters) :
    ledger.dequeue owner = ledger := by
  rw [dequeue, List.erase_of_not_mem absent]

theorem sameSlots_ungrant_grant_absent (free : ledger.freeSlots ≠ [])
    (idle : ¬ledger.holds owner) (absent : owner ∉ ledger.waiters) :
    ledger.SameSlots ((ledger.grant owner).ungrant owner) := by
  have granted : owner ∉ (ledger.grant owner).waiters := by
    rw [grant_waiters]
    exact fun inside => absent (List.mem_of_mem_erase inside)
  have same := dequeue_absent absent
  have back := sameSlots_ungrant_grant free idle (by rw [same]; exact absent)
  rw [same, dequeue_absent granted] at back
  exact back

end Ledger

namespace SubordinateCallLimiter

variable {limiter : SubordinateCallLimiter} {owner : Text}
variable {parent : ScheduledWorkLimiters} {deadline : Option Instant}

/-! ## Whole calls -/

/-- The last section of a call: what is granted is registered, with the
coordinator as it is then. -/
def finish (parent : ScheduledWorkLimiters)
    (left : SubordinateResult × SubordinateCallLimiter) :
    SubordinateResult × SubordinateCallLimiter × ScheduledWorkLimiters :=
  match left.2.pending with
  | some (.registering permit) => left.2.register parent permit
  | _ => (left.1, left.2, parent)

/-- `acquire`, until it ends or waits; the coordinator is asked as `asked`
and registers as `parent`. -/
def callAcquire (limiter : SubordinateCallLimiter) (owner : Text)
    (triple : List CapacityPermit) (deadline : Option Instant)
    (clock : SubordinateClock) (asked parent : ScheduledWorkLimiters) :
    SubordinateResult × SubordinateCallLimiter × ScheduledWorkLimiters :=
  match limiter.acquire owner triple deadline with
  | .error error => (.raised error, limiter, parent)
  | .ok asking =>
      finish parent (asking.proceedAcquire (asked.parentHolds owner) owner
        deadline clock)

/-- A call of `acquire` that waited, until it ends or waits again. -/
def callWoken (limiter : SubordinateCallLimiter) (call : SubordinateCall)
    (clock : SubordinateClock) (parent : ScheduledWorkLimiters) :
    SubordinateResult × SubordinateCallLimiter × ScheduledWorkLimiters :=
  finish parent (limiter.resume call.owner (some call.deadline) clock)

/-- `try_acquire`. -/
def callTryAcquire (limiter : SubordinateCallLimiter) (owner : Text)
    (rating : Reading) (asked parent : ScheduledWorkLimiters) :
    SubordinateResult × SubordinateCallLimiter × ScheduledWorkLimiters :=
  match limiter.tryAcquire owner with
  | .error error => (.raised error, limiter, parent)
  | .ok trying =>
      finish parent (trying.proceedTry (asked.parentHolds owner) owner rating)

end SubordinateCallLimiter

/-- The call raised, or returned `None`. -/
def SubordinateResult.Failed : SubordinateResult → Prop
  | .raised _ => True
  | .refused => True
  | _ => False

/-- The reading of the clock raises, or is before the last one the bucket
saw. -/
def TokenBucket.Rejects (bucket : TokenBucket) : Reading → Prop
  | .error _ => True
  | .ok now => ∃ lastSeen, bucket.lastSeenMicros = some lastSeen ∧
      now < lastSeen

namespace SubordinateCallLimiter

variable {limiter : SubordinateCallLimiter} {owner : Text}
variable {parent : ScheduledWorkLimiters} {deadline : Option Instant}

/-- What a failed call leaves is what it found. -/
structure Undone (limiter : SubordinateCallLimiter)
    (parent : ScheduledWorkLimiters) (left : SubordinateResult ×
      SubordinateCallLimiter × ScheduledWorkLimiters) : Prop where
  slots : limiter.ledger.SameSlots left.2.1.ledger
  registered : left.2.2.subordinates = parent.subordinates

/-- The call undoes what it did when it fails. -/
def Undoes (limiter : SubordinateCallLimiter)
    (parent : ScheduledWorkLimiters) (left : SubordinateResult ×
      SubordinateCallLimiter × ScheduledWorkLimiters) : Prop :=
  left.1.Failed → limiter.Undone parent left

/-- The limiter has a rate that the reading is rejected by. -/
def Rejects (limiter : SubordinateCallLimiter) (rating : Reading) : Prop :=
  ∃ bucket, limiter.bucket = some bucket ∧ bucket.Rejects rating

/-! ## The bucket is asked -/

/-- A bucket answers about one token unless it rejects the reading. -/
theorem tryAcquire_cases (bucket : TokenBucket) (now : Int) :
    (bucket.Rejects (.ok now) ∧
      ∃ error, bucket.tryAcquire now 1 = .error error) ∨
    (¬bucket.Rejects (.ok now) ∧
      ∃ answer, bucket.tryAcquire now 1 = .ok answer) := by
  cases seen : bucket.lastSeenMicros with
  | none =>
      refine .inr ⟨?_, _, TokenBucket.tryAcquire_of_refilled le_rfl
        (TokenBucket.refilled_unseen seen now)⟩
      rintro ⟨lastSeen, seen', _⟩
      rw [seen] at seen'
      cases seen'
  | some lastSeen =>
      by_cases earlier : now < lastSeen
      · refine .inl ⟨⟨lastSeen, seen, earlier⟩, .ratePolicy
          "token bucket instant precedes the last observed instant", ?_⟩
        rw [TokenBucket.tryAcquire, if_neg (by decide),
          TokenBucket.refilled_before seen earlier]
        rfl
      · refine .inr ⟨?_, _, TokenBucket.tryAcquire_of_refilled le_rfl
          (TokenBucket.refilled_seen seen (not_lt.mp earlier))⟩
        rintro ⟨lastSeen', seen', earlier'⟩
        rw [seen] at seen'
        cases seen'
        exact earlier earlier'

theorem rejects_some {bucket : TokenBucket}
    (rated : limiter.bucket = some bucket) {rating : Reading} :
    limiter.Rejects rating ↔ bucket.Rejects rating := by
  constructor
  · rintro ⟨other, rated', rejects⟩
    rw [rated] at rated'
    cases rated'
    exact rejects
  · exact fun rejects => ⟨bucket, rated, rejects⟩

/-! ## From the grant on -/

theorem finish_settled {left : SubordinateResult × SubordinateCallLimiter}
    (settled : left.2.pending = none) (parent : ScheduledWorkLimiters) :
    finish parent left = (left.1, left.2, parent) := by
  rw [finish, settled]

theorem finish_registering
    {left : SubordinateResult × SubordinateCallLimiter}
    {permit : CapacityPermit}
    (pending : left.2.pending = some (.registering permit))
    (parent : ScheduledWorkLimiters) :
    finish parent left = left.2.register parent permit := by
  rw [finish, pending]

theorem Undoes.settled {left : SubordinateResult × SubordinateCallLimiter}
    (settled : left.2.pending = none)
    (same : limiter.ledger.SameSlots left.2.ledger) :
    limiter.Undoes parent (finish parent left) := by
  intro _
  rw [finish_settled settled]
  exact ⟨same, rfl⟩

/-- A permit that is not registered is given back. -/
theorem Undoes.registering {next : SubordinateCallLimiter}
    {permit : CapacityPermit} {result : SubordinateResult}
    (pending : next.pending = some (.registering permit))
    (back : limiter.ledger.SameSlots (next.ledger.ungrant permit.owner)) :
    limiter.Undoes parent (finish parent (result, next)) := by
  rw [finish_registering pending]
  intro failed
  cases registers : parent.registerSubordinate permit.owner permit with
  | ok registered =>
      rw [register, registers] at failed
      exact failed.elim
  | error error =>
      rw [register, registers]
      exact ⟨back, rfl⟩

/-- Once the slot is taken, the call undoes what it did unless the bucket
rejects the reading. -/
theorem grantChecked_undoes_iff (free : limiter.ledger.freeSlots ≠ [])
    (idle : ¬limiter.ledger.holds owner)
    (left : owner ∉ (limiter.ledger.dequeue owner).waiters)
    (deadline : Option Instant) (rating : Reading) :
    (limiter.leave owner).Undoes parent (finish parent
        ((limiter.grantChecked owner deadline rating).1,
          (limiter.grantChecked owner deadline rating).2.leave owner)) ↔
      ¬limiter.Rejects rating := by
  have back : (limiter.leave owner).ledger.SameSlots
      (((limiter.ledger.grant owner).dequeue owner).ungrant owner) :=
    Ledger.sameSlots_ungrant_grant free idle left
  have kept : ¬(limiter.leave owner).ledger.SameSlots
      ((limiter.ledger.grant owner).dequeue owner) :=
    Ledger.not_sameSlots_grant idle
      ((Ledger.grant_holds limiter.ledger owner owner).mpr (.inr rfl))
  cases rated : limiter.bucket with
  | none =>
      have unrated : ¬limiter.Rejects rating := by
        rintro ⟨bucket, rated', _⟩
        rw [rated] at rated'
        cases rated'
      have granted : limiter.grantChecked owner deadline rating =
          (.continues, limiter.grant owner) := by
        rw [grantChecked, rated]
      rw [granted]
      exact iff_of_true (Undoes.registering rfl back) unrated
  | some bucket =>
      rw [rejects_some rated]
      cases rating with
      | error raised =>
          have raises : limiter.grantChecked owner deadline (.error raised) =
              (.raised (.policy raised), (limiter.grant owner).unlock) := by
            rw [grantChecked, rated]
          rw [raises]
          refine iff_of_false ?_ (not_not.mpr trivial)
          intro undoes
          rw [finish_settled rfl] at undoes
          exact kept (undoes trivial).slots
      | ok now =>
          rcases tryAcquire_cases bucket now with
            ⟨rejects, error, raises⟩ | ⟨accepts, ⟨acquired, after⟩, answers⟩
          · have raises : limiter.grantChecked owner deadline (.ok now) =
                (.raised (.policy error), (limiter.grant owner).unlock) := by
              rw [grantChecked, rated]
              dsimp only
              rw [raises]
            rw [raises]
            refine iff_of_false ?_ (not_not.mpr rejects)
            intro undoes
            rw [finish_settled rfl] at undoes
            exact kept (undoes trivial).slots
          · refine iff_of_true ?_ accepts
            cases acquired with
            | true =>
                have granted : limiter.grantChecked owner deadline (.ok now) =
                    (.continues,
                      { limiter.grant owner with bucket := some after }) := by
                  rw [grantChecked, rated]
                  dsimp only
                  rw [answers]
                rw [granted]
                exact Undoes.registering rfl back
            | false =>
                have denied : limiter.grantChecked owner deadline (.ok now) =
                    (.raised (rateError after now deadline),
                      { ((limiter.grant owner).ungrant owner).notifyAll.unlock
                        with bucket := some after }) := by
                  rw [grantChecked, rated]
                  dsimp only
                  rw [answers]
                rw [denied]
                refine Undoes.settled rfl ?_
                have swapped := congrArg SubordinateCallLimiter.ledger
                  (ungrant_leave (limiter.grant owner) owner)
                change (limiter.leave owner).ledger.SameSlots
                  (((limiter.grant owner).ungrant owner).leave owner).ledger
                rw [swapped]
                exact back

/-! ## The loop of `acquire` -/

theorem attempt_eq_ok_true {checking waiting : Reading} :
    limiter.attempt owner deadline checking waiting = .ok true ↔
      limiter.closed = false ∧
        requireBefore deadline checking
          "subordinate wait deadline elapsed before capacity became available"
          = .ok () ∧
        limiter.ledger.mayGrant owner := by
  rw [attempt, check_bind_eq_ok, check_bind_eq_ok, require_eq_ok,
    Bool.not_eq_true']
  by_cases may : limiter.ledger.mayGrant owner
  · rw [if_pos may]
    simp [may, pure, Except.pure]
  · rw [if_neg may, check_bind_eq_ok]
    simp [may, pure, Except.pure]

theorem resume_undoes_iff (idle : ¬limiter.ledger.holds owner)
    (left : owner ∉ (limiter.ledger.dequeue owner).waiters)
    (deadline : Option Instant) (clock : SubordinateClock) :
    (limiter.leave owner).Undoes parent
        (finish parent (limiter.resume owner deadline clock)) ↔
      ¬(limiter.attempt owner deadline clock.checking clock.waiting =
          .ok true ∧ limiter.Rejects clock.rating) := by
  cases attempts : limiter.attempt owner deadline clock.checking
      clock.waiting with
  | error raised =>
      have resumes : limiter.resume owner deadline clock =
          (.raised raised, (limiter.leave owner).unlock) := by
        rw [resume, attempts]
      rw [resumes]
      refine iff_of_true (Undoes.settled rfl (Ledger.SameSlots.refl _)) ?_
      rintro ⟨granted, _⟩
      cases granted
  | ok granted =>
      cases granted with
      | false =>
          have resumes : limiter.resume owner deadline clock =
              (.parked,
                (limiter.park ⟨owner, deadline.getD 0, false⟩).unlock) := by
            rw [resume, attempts]
          rw [resumes, finish_settled rfl]
          refine iff_of_true (fun failed => failed.elim) ?_
          rintro ⟨granted, _⟩
          cases granted
      | true =>
          have resumes : limiter.resume owner deadline clock =
              ((limiter.grantChecked owner deadline clock.rating).1,
                (limiter.grantChecked owner deadline
                  clock.rating).2.leave owner) := by
            rw [resume, attempts]
          have may := (attempt_eq_ok_true.mp attempts).2.2
          rw [Ledger.mayGrant, Bool.and_eq_true, Bool.not_eq_true',
            List.isEmpty_eq_false_iff] at may
          rw [resumes, grantChecked_undoes_iff may.1 idle left]
          simp

/-! ## Every call -/

/-- A call of `acquire` takes a slot at once. -/
structure TakesSlot (limiter : SubordinateCallLimiter) (owner : Text)
    (triple : List CapacityPermit) (deadline : Option Instant)
    (clock : SubordinateClock) (asked : ScheduledWorkLimiters) : Prop where
  key : validateOwnerKey owner "acquisition owner" = .ok ()
  evidence : validateParentTriple owner triple = .ok ()
  opened : limiter.closed = false
  reserved : asked.parentHolds owner = .ok true
  idle : limiter.ledger.holds owner = false
  absent : limiter.ledger.hasWaiter owner = false
  bounded : requireBounded deadline clock.bounding =
    .ok ()
  before : requireBefore deadline clock.checking
    "subordinate wait deadline elapsed before capacity became available" =
      .ok ()
  free : limiter.ledger.freeSlots ≠ []
  first : limiter.ledger.waiters = []

/-- A call of `acquire` that waited takes a slot now. -/
structure TakesSlotWoken (limiter : SubordinateCallLimiter)
    (call : SubordinateCall) (clock : SubordinateClock) : Prop where
  opened : limiter.closed = false
  before : requireBefore (some call.deadline)
    clock.checking
    "subordinate wait deadline elapsed before capacity became available" =
      .ok ()
  may : limiter.ledger.mayGrant call.owner

theorem callWoken_undoes_iff (kept : limiter.Kept) {call : SubordinateCall}
    (waits : call ∈ limiter.parked) (clock : SubordinateClock)
    (parent : ScheduledWorkLimiters) :
    (limiter.leave call.owner).Undoes parent
        (limiter.callWoken call clock parent) ↔
      ¬(limiter.TakesSlotWoken call clock ∧
        limiter.Rejects clock.rating) := by
  have nodup : limiter.ledger.waiters.Nodup := kept.queue ▸ kept.apart
  rw [callWoken, resume_undoes_iff (kept.idle call waits)
    nodup.not_mem_erase, attempt_eq_ok_true]
  constructor
  · rintro within ⟨⟨opened, before, may⟩, rejects⟩
    exact within ⟨⟨opened, before, may⟩, rejects⟩
  · rintro within ⟨⟨opened, before, may⟩, rejects⟩
    exact within ⟨⟨opened, before, may⟩, rejects⟩

theorem undoes_congr {other : SubordinateCallLimiter}
    (same : limiter.ledger = other.ledger)
    {left : SubordinateResult × SubordinateCallLimiter ×
      ScheduledWorkLimiters} :
    limiter.Undoes parent left ↔ other.Undoes parent left := by
  constructor
  · intro undoes failed
    exact ⟨same ▸ (undoes failed).slots, (undoes failed).registered⟩
  · intro undoes failed
    exact ⟨same ▸ (undoes failed).slots, (undoes failed).registered⟩

theorem Undoes.refused (error : CapacityError) :
    limiter.Undoes parent (.raised error, limiter, parent) :=
  fun _ => ⟨Ledger.SameSlots.refl _, rfl⟩

theorem requireReservation_eq_ok {holds : Except CapacityError Bool} :
    limiter.requireReservation holds owner = .ok () ↔
      holds = .ok true ∧ limiter.ledger.holds owner = false ∧
        limiter.ledger.hasWaiter owner = false := by
  rw [requireReservation, bind_eq_ok]
  constructor
  · rintro ⟨held, answered, checked⟩
    rw [check_bind_eq_ok, require_eq_ok, require_eq_ok, Bool.not_eq_true',
      Bool.or_eq_false_iff] at checked
    obtain ⟨rfl, checked⟩ := checked
    exact ⟨answered, checked⟩
  · rintro ⟨answered, idle, absent⟩
    refine ⟨true, answered, ?_⟩
    rw [check_bind_eq_ok, require_eq_ok, require_eq_ok, Bool.not_eq_true',
      Bool.or_eq_false_iff]
    exact ⟨rfl, idle, absent⟩

/-- A new waiter is first exactly in an empty queue. -/
theorem mayGrant_enqueue (absent : owner ∉ limiter.ledger.waiters) :
    (limiter.ledger.enqueue owner).mayGrant owner ↔
      limiter.ledger.freeSlots ≠ [] ∧ limiter.ledger.waiters = [] := by
  rw [Ledger.mayGrant, Ledger.enqueue, Bool.and_eq_true, Bool.not_eq_true',
    List.isEmpty_eq_false_iff]
  refine and_congr_right fun _ => ?_
  cases queue : limiter.ledger.waiters with
  | nil => simp
  | cons first rest =>
      rw [queue] at absent
      have other : first ≠ owner := fun same => absent (by simp [same])
      simp [other]

theorem callAcquire_undoes_iff (owner : Text) (triple : List CapacityPermit)
    (deadline : Option Instant) (clock : SubordinateClock)
    (asked parent : ScheduledWorkLimiters) :
    limiter.Undoes parent
        (limiter.callAcquire owner triple deadline clock asked parent) ↔
      ¬(limiter.TakesSlot owner triple deadline clock asked ∧
        limiter.Rejects clock.rating) := by
  have acquires : ∀ asking, limiter.acquire owner triple deadline =
      .ok asking ↔ validateOwnerKey owner "acquisition owner" = .ok () ∧
        validateParentTriple owner triple = .ok () ∧
        limiter.closed = false ∧
        asking = { limiter with pending := some (.asking owner deadline) } := by
    intro asking
    rw [acquire, check_bind_eq_ok, check_bind_eq_ok, check_bind_eq_ok,
      require_eq_ok, Bool.not_eq_true']
    refine and_congr_right fun _ => and_congr_right fun _ =>
      and_congr_right fun _ => ?_
    exact ⟨fun same => (Except.ok.inj same).symm,
      fun same => congrArg Except.ok same.symm⟩
  cases begins : limiter.acquire owner triple deadline with
  | error raised =>
      rw [callAcquire, begins]
      refine iff_of_true (Undoes.refused raised) ?_
      rintro ⟨takes, _⟩
      have begun := (acquires _).mpr
        ⟨takes.key, takes.evidence, takes.opened, rfl⟩
      rw [begun] at begins
      cases begins
  | ok asking =>
      obtain ⟨key, evidence, opened, rfl⟩ := (acquires asking).mp begins
      rw [callAcquire, begins]
      dsimp only
      set asking : SubordinateCallLimiter :=
        { limiter with pending := some (.asking owner deadline) } with asks
      cases checks : (do
          asking.requireReservation (asked.parentHolds owner) owner
          requireBounded deadline clock.bounding) with
      | error raised =>
          have proceeds : asking.proceedAcquire (asked.parentHolds owner)
              owner deadline clock = (.raised raised, asking.unlock) := by
            rw [proceedAcquire, checks]
          rw [proceeds]
          refine iff_of_true (Undoes.settled rfl (Ledger.SameSlots.refl _)) ?_
          rintro ⟨takes, _⟩
          have passed : (do
              asking.requireReservation (asked.parentHolds owner) owner
              requireBounded deadline clock.bounding) = .ok () :=
            check_bind_eq_ok.mpr ⟨requireReservation_eq_ok.mpr
              ⟨takes.reserved, takes.idle, takes.absent⟩, takes.bounded⟩
          rw [checks] at passed
          cases passed
      | ok passed =>
          obtain ⟨reservation, bounded⟩ := check_bind_eq_ok.mp checks
          obtain ⟨reserved, idle, absent⟩ :=
            requireReservation_eq_ok.mp reservation
          set queued : SubordinateCallLimiter :=
            { asking with ledger := asking.ledger.enqueue owner } with queues
          have proceeds : asking.proceedAcquire (asked.parentHolds owner)
              owner deadline clock = queued.resume owner deadline clock := by
            rw [proceedAcquire, checks]
          have notWaiting : owner ∉ limiter.ledger.waiters :=
            of_decide_eq_false absent
          have removed : queued.ledger.dequeue owner = limiter.ledger := by
            show { limiter.ledger with
              waiters := (limiter.ledger.waiters ++ [owner]).erase owner } = _
            rw [List.erase_append_right _ notWaiting]
            simp
          have left : owner ∉ (queued.ledger.dequeue owner).waiters := by
            rw [removed]
            exact notWaiting
          have unheld : ¬queued.ledger.holds owner := by
            show ¬limiter.ledger.holds owner
            rw [idle]
            exact Bool.false_ne_true
          have swapped : limiter.Undoes parent
              (finish parent (queued.resume owner deadline clock)) ↔
              (queued.leave owner).Undoes parent
                (finish parent (queued.resume owner deadline clock)) :=
            undoes_congr removed.symm
          rw [proceeds, swapped, resume_undoes_iff unheld left, attempt_eq_ok_true]
          have may := mayGrant_enqueue notWaiting
          refine not_congr (and_congr_left fun _ => ?_)
          constructor
          · rintro ⟨_, before, granted⟩
            obtain ⟨free, first⟩ := may.mp granted
            exact ⟨key, evidence, opened, reserved, idle, absent, bounded,
              before, free, first⟩
          · intro takes
            exact ⟨opened, takes.before, may.mpr ⟨takes.free, takes.first⟩⟩

/-- `try_acquire` asks its bucket before it takes a slot. -/
theorem callTryAcquire_undoes (owner : Text) (rating : Reading)
    (asked parent : ScheduledWorkLimiters) :
    limiter.Undoes parent
      (limiter.callTryAcquire owner rating asked parent) := by
  cases begins : limiter.tryAcquire owner with
  | error raised =>
      rw [callTryAcquire, begins]
      exact Undoes.refused raised
  | ok trying =>
      have same : trying.ledger = limiter.ledger := by
        rw [tryAcquire, check_bind_eq_ok, check_bind_eq_ok] at begins
        obtain ⟨_, _, begins⟩ := begins
        cases begins
        rfl
      rw [callTryAcquire, begins, undoes_congr same.symm]
      dsimp only
      have refuses : ∀ result after, after.ledger = trying.ledger →
          after.pending = none →
          trying.Undoes parent (finish parent (result, after)) := by
        intro result after kept settled
        refine Undoes.settled settled ?_
        rw [kept]
        exact Ledger.SameSlots.refl _
      unfold proceedTry
      split
      · exact refuses _ _ rfl rfl
      · rename_i reservation
        obtain ⟨_, idle, absent⟩ := requireReservation_eq_ok.mp reservation
        split
        · exact refuses _ _ rfl rfl
        · rename_i may
          rw [Bool.not_eq_true', Bool.not_eq_false, Ledger.mayGrant,
            Bool.and_eq_true, Bool.not_eq_true', List.isEmpty_eq_false_iff]
            at may
          have back : trying.ledger.SameSlots
              ((trying.ledger.grant owner).ungrant owner) :=
            Ledger.sameSlots_ungrant_grant_absent may.1
              (by rw [idle]; exact Bool.false_ne_true)
              (of_decide_eq_false absent)
          split
          · exact Undoes.registering rfl back
          · split
            · exact refuses _ _ rfl rfl
            · split
              · exact refuses _ _ rfl rfl
              · exact Undoes.registering rfl back
              · exact refuses _ _ rfl rfl

/-! ## Every state -/

/-- What is registered does not wait. -/
theorem finish_parked {left : SubordinateResult × SubordinateCallLimiter}
    (parks : (finish parent left).1 = .parked) :
    left.1 = .parked ∧ finish parent left = (left.1, left.2, parent) := by
  unfold finish at parks ⊢
  split at parks
  · rename_i permit _
    cases registers : parent.registerSubordinate permit.owner permit with
    | ok registered =>
        rw [register, registers] at parks
        cases parks
    | error error =>
        rw [register, registers] at parks
        cases parks
  · exact ⟨parks, rfl⟩

theorem grantChecked_not_parked (owner : Text) (deadline : Option Instant)
    (rating : Reading) :
    (limiter.grantChecked owner deadline rating).1 ≠ .parked := by
  unfold grantChecked
  dsimp only
  split
  · exact fun parks => nomatch parks
  · split
    · exact fun parks => nomatch parks
    · split
      · exact fun parks => nomatch parks
      · exact fun parks => nomatch parks
      · exact fun parks => nomatch parks

/-- A call that waits has only joined the wait set. -/
theorem resume_parked {clock : SubordinateClock}
    (parks : (limiter.resume owner deadline clock).1 = .parked) :
    (limiter.resume owner deadline clock).2.ledger = limiter.ledger := by
  unfold resume at parks ⊢
  split at parks
  · cases parks
  · exact absurd parks (grantChecked_not_parked owner deadline clock.rating)
  · rfl

/-- A call that waits has left its ledger and its coordinator alone. -/
def Waits (ledger : Ledger) (parent : ScheduledWorkLimiters)
    (left : SubordinateResult × SubordinateCallLimiter ×
      ScheduledWorkLimiters) : Prop :=
  left.1 = .parked → left.2.1.ledger = ledger ∧ left.2.2 = parent

theorem callWoken_waits (call : SubordinateCall) (clock : SubordinateClock)
    (parent : ScheduledWorkLimiters) :
    Waits limiter.ledger parent (limiter.callWoken call clock parent) := by
  intro parks
  obtain ⟨waited, same⟩ := finish_parked parks
  rw [callWoken, same]
  exact ⟨resume_parked waited, rfl⟩

/-- But for its place at the end of the queue. -/
theorem callAcquire_waits (owner : Text) (triple : List CapacityPermit)
    (deadline : Option Instant) (clock : SubordinateClock)
    (asked parent : ScheduledWorkLimiters) :
    Waits (limiter.ledger.enqueue owner) parent
      (limiter.callAcquire owner triple deadline clock asked parent) := by
  intro parks
  cases begins : limiter.acquire owner triple deadline with
  | error raised =>
      rw [callAcquire, begins] at parks
      cases parks
  | ok asking =>
      have same : asking.ledger = limiter.ledger := by
        rw [acquire, check_bind_eq_ok, check_bind_eq_ok, check_bind_eq_ok]
          at begins
        obtain ⟨_, _, _, begins⟩ := begins
        cases begins
        rfl
      rw [callAcquire, begins] at parks ⊢
      obtain ⟨waited, finished⟩ := finish_parked parks
      dsimp only
      rw [finished]
      refine ⟨?_, rfl⟩
      unfold proceedAcquire at waited ⊢
      split at waited
      · cases waited
      · exact (resume_parked waited).trans (by rw [same])

/-- Each acquisition gives back what it took when it fails, except for
`acquire` where the bucket rejects the reading that follows the grant.  A call
that waits has only entered the queue. -/
structure CallsUndo (limiter : SubordinateCallLimiter) : Prop where
  acquire : ∀ owner triple deadline clock asked parent,
    limiter.Undoes parent
        (limiter.callAcquire owner triple deadline clock asked parent) ↔
      ¬(limiter.TakesSlot owner triple deadline clock asked ∧
        limiter.Rejects clock.rating)
  woken : ∀ call ∈ limiter.parked, ∀ clock parent,
    (limiter.leave call.owner).Undoes parent
        (limiter.callWoken call clock parent) ↔
      ¬(limiter.TakesSlotWoken call clock ∧ limiter.Rejects clock.rating)
  tryAcquire : ∀ owner rating asked parent,
    limiter.Undoes parent (limiter.callTryAcquire owner rating asked parent)
  waits : ∀ owner triple deadline clock asked parent,
    Waits (limiter.ledger.enqueue owner) parent
      (limiter.callAcquire owner triple deadline clock asked parent)
  waitsOn : ∀ call clock parent,
    Waits limiter.ledger parent (limiter.callWoken call clock parent)

theorem Kept.callsUndo (kept : limiter.Kept) : limiter.CallsUndo where
  acquire := callAcquire_undoes_iff
  woken _ waits := callWoken_undoes_iff kept waits
  tryAcquire := callTryAcquire_undoes
  waits := callAcquire_waits
  waitsOn := callWoken_waits

end SubordinateCallLimiter

section System

variable {ι : Type} [DecidableEq ι]

/-- In every interleaving, every limiter's failed acquisitions leave its slots
and queue and the registered permits as they were, except where the bucket
rejects the reading that follows the grant. -/
theorem subordinate_calls_undo {plan : CapacityPlan ι}
    {state : CapacityState ι}
    (reachable : (capacitySystem plan).Reachable state) (index : ι) :
    (state.subordinate index).CallsUndo := by
  have invariant : CapacityInvariant plan state := by
    refine reachable.invariant (fun _ => CapacityInvariant.initially) ?_
    rintro before op after _ holds ⟨enabled, rfl⟩
    exact (holds.step enabled).1
  exact (invariant.sound index).toKept.callsUndo

end System

section Sample

/-- The sample plan with one connector call a second. -/
def ratedPlan : CapacityPlan Unit :=
  { samplePlan with rate := fun _ => some TokenBucket.everySecond }

def ratedStart : CapacityState Unit :=
  { sampleStart with
    subordinate := fun _ =>
      { sampleStart.subordinate () with
        bucket := some (.full TokenBucket.everySecond) } }

/-- One work unit holds the whole triple. -/
def ratedHeld : CapacityState Unit :=
  ratedStart.perform (.scheduled (.acquire (text "unit-1") (text "east")
    none ⟨.ok 0, .ok 0, .ok 0⟩))

theorem ratedHeld_reachable :
    (capacitySystem ratedPlan).Reachable ratedHeld := by
  have created : ScheduledWorkLimiters.create ratedPlan.settings
      ratedPlan.strategyId ratedPlan.nodeIds = .ok ratedStart.scheduled := by
    simp only [ScheduledWorkLimiters.create, bind_eq_ok]
    exact ⟨(), by decide, (), by decide, (),
      by decide, (), by decide, rfl⟩
  have initial : (capacitySystem ratedPlan).Initial ratedStart :=
    ⟨created, fun _ => rfl⟩
  have enabled : ratedStart.Enabled (.scheduled (.acquire (text "unit-1")
      (text "east") none ⟨.ok 0, .ok 0, .ok 0⟩)) := trivial
  exact .step (.initial initial) ⟨enabled, rfl⟩

theorem subordinate_calls_undo_rated :
    (ratedHeld.subordinate ()).CallsUndo :=
  subordinate_calls_undo ratedHeld_reachable ()

/-- The triple of the unit. -/
def unitTriple : List CapacityPermit :=
  [⟨.global, 2, text "unit-1", 1⟩, ⟨.strategy, 2, text "unit-1", 1⟩,
    ⟨.node, 1, text "unit-1", 1⟩]

/-- `acquire` by the unit, with a clock that raises once the slot is taken. -/
def brokenCall :
    SubordinateResult × SubordinateCallLimiter × ScheduledWorkLimiters :=
  (ratedHeld.subordinate ()).callAcquire (text "unit-1") unitTriple none
    ⟨⟨.ok 0, .ok 0, .ok 0⟩, .error .clock⟩ ratedHeld.scheduled
    ratedHeld.scheduled

/-- The call raises, and the only slot stays held. -/
theorem brokenCall_leaks :
    (capacitySystem ratedPlan).Reachable ratedHeld ∧
      brokenCall.1 = .raised (.policy .clock) ∧
      (ratedHeld.subordinate ()).ledger.held = [] ∧
      (ratedHeld.subordinate ()).ledger.freeSlots = [1] ∧
      brokenCall.2.1.ledger.held = [(text "unit-1", 1)] ∧
      brokenCall.2.1.ledger.freeSlots = [] := by
  refine ⟨ratedHeld_reachable, by decide, by decide,
    by decide, by decide, by decide⟩

end Sample

end ParityGrid.Application
