import ParityGrid.Application.Execution.Coordination

/-!
# Subordinate capacity

A connector or CPU-pool limiter holds its own lock and asks the coordinator,
under the coordinator's lock, whether the owner holds its reservation and to
register or unregister a permit.  Between two such questions other threads may
use the coordinator, so a call is a sequence of sections; `pending` says where
the thread that holds the limiter's lock is.
-/

namespace ParityGrid.Application

open Foundation
open ScheduledWorkLimiters (requireBounded requireBefore requireWait AcquireClock)

/-- `_validate_parent_triple`. -/
def validateParentTriple (owner : Text) (parent : List CapacityPermit) :
    Except CapacityError Unit := do
  require (parent.length = 3)
    (.validation
      "scheduled-work parent evidence must carry exactly three permits")
  (parent.zip scheduledCategories).forM fun (entry, expected) => do
    require (entry.category = expected)
      (.order "parent evidence must be ordered global, strategy, then node")
    require (entry.owner = owner)
      (.ownership "parent evidence permits must belong to the acquiring owner")

/-- One subordinate call that waits for the condition. -/
structure SubordinateCall where
  owner : Text
  deadline : Instant
  notified : Bool
deriving DecidableEq

/-- What the thread that holds the limiter's lock does next. -/
inductive PendingSection where
  /-- `acquire` asks for the reservation. -/
  | asking (owner : Text) (deadline : Option Instant)
  /-- `try_acquire` asks for the reservation. -/
  | trying (owner : Text)
  /-- A granted permit is registered with the coordinator. -/
  | registering (permit : CapacityPermit)
  /-- `release` unregisters a permit. -/
  | unregistering (permit : CapacityPermit)
deriving DecidableEq

/-- The limiter; nobody holds its lock when nothing is pending. -/
structure SubordinateCallLimiter where
  ledger : Ledger
  bucket : Option TokenBucket
  closed : Bool
  parked : List SubordinateCall
  pending : Option PendingSection
deriving DecidableEq

/-- How one section ends. -/
inductive SubordinateResult where
  | raised (error : CapacityError)
  /-- `try_acquire` returns `None`. -/
  | refused
  | parked
  /-- The thread keeps the lock and goes on with the pending section. -/
  | continues
  | returned
deriving DecidableEq

namespace SubordinateCallLimiter

/-- The constructor of the limiter. -/
def create (category : Category) (limit : Nat)
    (rate : Option RateLimitPolicy) :
    Except CapacityError SubordinateCallLimiter := do
  require (subordinateCategories.contains category)
    (.validation "subordinate category must be connector or cpu_pool")
  require (1 ≤ limit && limit ≤ maxCapturedLimit)
    (.validation "subordinate limit is outside the supported range")
  pure
    { ledger := .new category limit
      bucket := rate.map .full
      closed := false
      parked := []
      pending := none }

/-- `notify_all`. -/
def notifyAll (limiter : SubordinateCallLimiter) : SubordinateCallLimiter :=
  { limiter with
    parked := limiter.parked.map fun call => { call with notified := true } }

/-- Leave the queue and the wait set. -/
def leave (limiter : SubordinateCallLimiter) (owner : Text) :
    SubordinateCallLimiter :=
  { limiter with
    ledger := limiter.ledger.dequeue owner
    parked := without SubordinateCall.owner owner limiter.parked }

/-- Wait for the condition. -/
def park (limiter : SubordinateCallLimiter) (call : SubordinateCall) :
    SubordinateCallLimiter :=
  { limiter with
    parked := rejoin SubordinateCall.owner call limiter.parked }

/-- The slot is free again. -/
def ungrant (limiter : SubordinateCallLimiter) (owner : Text) :
    SubordinateCallLimiter :=
  { limiter with ledger := limiter.ledger.ungrant owner }

/-- `_grant`: the slot is taken, and its permit is registered next. -/
def grant (limiter : SubordinateCallLimiter) (owner : Text) :
    SubordinateCallLimiter :=
  { limiter with
    ledger := limiter.ledger.grant owner
    pending := some (.registering
      (limiter.ledger.permit owner limiter.ledger.nextSlot)) }

/-- The thread gives the lock back. -/
def unlock (limiter : SubordinateCallLimiter) : SubordinateCallLimiter :=
  { limiter with pending := none }

/-! ## Acquiring -/

/-- `acquire`, up to its question to the coordinator. -/
def acquire (limiter : SubordinateCallLimiter) (owner : Text)
    (parent : List CapacityPermit) (deadline : Option Instant) :
    Except CapacityError SubordinateCallLimiter := do
  validateOwnerKey owner "acquisition owner"
  validateParentTriple owner parent
  require (!limiter.closed)
    (.closed "subordinate capacity limiter is closed")
  pure { limiter with pending := some (.asking owner deadline) }

/-- `try_acquire`, up to its question to the coordinator. -/
def tryAcquire (limiter : SubordinateCallLimiter) (owner : Text) :
    Except CapacityError SubordinateCallLimiter := do
  validateOwnerKey owner "acquisition owner"
  require (!limiter.closed)
    (.closed "subordinate capacity limiter is closed")
  pure { limiter with pending := some (.trying owner) }

/-- What both acquisitions check once the coordinator has answered. -/
def requireReservation (limiter : SubordinateCallLimiter)
    (holds : Except CapacityError Bool) (owner : Text) :
    Except CapacityError Unit := do
  let held ← holds
  require held
    (.ownership
      "subordinate capacity requires a held scheduled-work reservation")
  require (!(limiter.ledger.holds owner || limiter.ledger.hasWaiter owner))
    (.ownership "owner key already holds or awaits subordinate capacity")

/-- The error of a denied acquisition; the bucket has been asked at `now`. -/
def rateError (bucket : TokenBucket) (now : Instant)
    (deadline : Option Instant) : CapacityError :=
  match bucket.acquireAt now 1 with
  | .error error => .policy error
  | .ok retryAt =>
      match deadline with
      | none =>
          .timeout
            "subordinate rate policy is saturated and no wait deadline was given"
      | some deadline =>
          if deadline < retryAt then
            .timeout "subordinate rate retry exceeds the wait deadline"
          else .rateDeferred retryAt

/-- `_grant_checked`, up to the registration of its permit. -/
def grantChecked (limiter : SubordinateCallLimiter) (owner : Text)
    (deadline : Option Instant) (rating : Reading) :
    SubordinateResult × SubordinateCallLimiter :=
  let granted := limiter.grant owner
  match limiter.bucket with
  | none => (.continues, granted)
  | some bucket =>
      match rating with
      | .error error => (.raised (.policy error), granted.unlock)
      | .ok now =>
          match bucket.tryAcquire now 1 with
          | .error error => (.raised (.policy error), granted.unlock)
          | .ok (true, taken) =>
              (.continues, { granted with bucket := some taken })
          | .ok (false, asked) =>
              (.raised (rateError asked now deadline),
                { (granted.ungrant owner).notifyAll.unlock with
                  bucket := some asked })

/-- One turn of the loop of `acquire`: whether it grants, or else waits. -/
def attempt (limiter : SubordinateCallLimiter) (owner : Text)
    (deadline : Option Instant) (checking waiting : Reading) :
    Except CapacityError Bool := do
  require (!limiter.closed)
    (.closed "subordinate capacity limiter closed while waiting")
  requireBefore deadline checking
    "subordinate wait deadline elapsed before capacity became available"
  if limiter.ledger.mayGrant owner then pure true
  else do
    requireWait deadline waiting
      "subordinate capacity is saturated and no wait deadline was given"
    pure false

/-- The clock readings of one section. -/
structure SubordinateClock extends AcquireClock where
  rating : Reading

/-- The loop of `acquire` until it waits, registers a permit or ends. -/
def resume (limiter : SubordinateCallLimiter) (owner : Text)
    (deadline : Option Instant) (clock : SubordinateClock) :
    SubordinateResult × SubordinateCallLimiter :=
  match limiter.attempt owner deadline clock.checking clock.waiting with
  | .error error => (.raised error, (limiter.leave owner).unlock)
  | .ok true =>
      let (result, next) := limiter.grantChecked owner deadline clock.rating
      (result, next.leave owner)
  | .ok false =>
      (.parked, (limiter.park ⟨owner, deadline.getD 0, false⟩).unlock)

/-- `acquire` after the coordinator has answered. -/
def proceedAcquire (limiter : SubordinateCallLimiter)
    (holds : Except CapacityError Bool) (owner : Text)
    (deadline : Option Instant) (clock : SubordinateClock) :
    SubordinateResult × SubordinateCallLimiter :=
  match (do
      limiter.requireReservation holds owner
      requireBounded deadline clock.bounding) with
  | .error error => (.raised error, limiter.unlock)
  | .ok () =>
      { limiter with ledger := limiter.ledger.enqueue owner }.resume owner
        deadline clock

/-- `try_acquire` after the coordinator has answered. -/
def proceedTry (limiter : SubordinateCallLimiter)
    (holds : Except CapacityError Bool) (owner : Text) (rating : Reading) :
    SubordinateResult × SubordinateCallLimiter :=
  match limiter.requireReservation holds owner with
  | .error error => (.raised error, limiter.unlock)
  | .ok () =>
      if !limiter.ledger.mayGrant owner then (.refused, limiter.unlock)
      else
        match limiter.bucket with
        | none => (.continues, limiter.grant owner)
        | some bucket =>
            match rating with
            | .error error => (.raised (.policy error), limiter.unlock)
            | .ok now =>
                match bucket.tryAcquire now 1 with
                | .error error => (.raised (.policy error), limiter.unlock)
                | .ok (true, taken) =>
                    (.continues,
                      { limiter.grant owner with bucket := some taken })
                | .ok (false, asked) =>
                    (.refused, { limiter.unlock with bucket := some asked })

/-- `_register_with_parent`. -/
def register (limiter : SubordinateCallLimiter)
    (parent : ScheduledWorkLimiters) (permit : CapacityPermit) :
    SubordinateResult × SubordinateCallLimiter × ScheduledWorkLimiters :=
  match parent.registerSubordinate permit.owner permit with
  | .ok registered => (.returned, limiter.unlock, registered)
  | .error error =>
      (.raised error, (limiter.ungrant permit.owner).notifyAll.unlock, parent)

/-! ## Releasing -/

/-- `release`, up to its question to the coordinator. -/
def release (limiter : SubordinateCallLimiter) (permit : CapacityPermit) :
    Except CapacityError SubordinateCallLimiter := do
  require (permit.category = limiter.ledger.category)
    (.ownership "permit belongs to a different capacity category")
  require (limiter.ledger.held.lookup permit.owner = some permit.slot)
    (.ownership "permit is not currently held at this subordinate limiter")
  pure { limiter with pending := some (.unregistering permit) }

/-- `release` once the coordinator has been asked to forget the permit. -/
def unregister (limiter : SubordinateCallLimiter)
    (parent : ScheduledWorkLimiters) (permit : CapacityPermit) :
    SubordinateResult × SubordinateCallLimiter × ScheduledWorkLimiters :=
  match parent.unregisterSubordinate permit.owner permit with
  | .error error => (.raised error, limiter.unlock, parent)
  | .ok unregistered =>
      (.returned,
        { limiter with
          ledger := limiter.ledger.release permit.owner }.notifyAll.unlock,
        unregistered)

/-- `close`. -/
def close (limiter : SubordinateCallLimiter) : SubordinateCallLimiter :=
  if limiter.closed then limiter
  else { limiter with closed := true }.notifyAll

/-! ## What the limiter keeps -/

/-- The ledger accounts for its slots; parked owners wait and hold nothing. -/
structure Kept (limiter : SubordinateCallLimiter) : Prop where
  balanced : limiter.ledger.Balanced
  apart : (limiter.parked.map SubordinateCall.owner).Nodup
  queue : limiter.ledger.waiters = limiter.parked.map SubordinateCall.owner
  idle : ∀ call ∈ limiter.parked, ¬ limiter.ledger.holds call.owner

variable {limiter : SubordinateCallLimiter}

theorem Kept.unlock (kept : limiter.Kept) : limiter.unlock.Kept :=
  { kept with }

theorem Kept.notifyAll (kept : limiter.Kept) : limiter.notifyAll.Kept := by
  have owners : limiter.notifyAll.parked.map SubordinateCall.owner =
      limiter.parked.map SubordinateCall.owner := by
    simp [SubordinateCallLimiter.notifyAll, Function.comp_def]
  refine
    { balanced := kept.balanced, apart := owners ▸ kept.apart,
      queue := kept.queue.trans owners.symm, idle := ?_ }
  intro call member
  obtain ⟨before, inside, rfl⟩ := List.mem_map.mp member
  exact kept.idle before inside

theorem Kept.leave (kept : limiter.Kept) (owner : Text) :
    (limiter.leave owner).Kept := by
  have nodup : limiter.ledger.waiters.Nodup := kept.queue ▸ kept.apart
  refine
    { balanced := ⟨kept.balanced.owners, kept.balanced.slots⟩
      apart := nodup_without kept.apart
      queue := ?_
      idle := fun call member => kept.idle call (mem_without.mp member).1 }
  show limiter.ledger.waiters.erase owner = _
  rw [nodup.erase_eq_filter, kept.queue]
  refine Eq.trans ?_ (map_key_without owner limiter.parked).symm
  apply List.filter_congr
  intro who _
  exact Bool.eq_iff_iff.mpr (by simp)

/-- Taking a slot for an owner that neither holds nor waits. -/
theorem Kept.grant (kept : limiter.Kept) {owner : Text}
    (free : limiter.ledger.freeSlots ≠ [])
    (idle : ¬ limiter.ledger.holds owner)
    (fresh : ∀ call ∈ limiter.parked, call.owner ≠ owner) :
    (limiter.grant owner).Kept := by
  refine
    { balanced := kept.balanced.grant free idle, apart := kept.apart,
      queue := ?_, idle := ?_ }
  · have absent : owner ∉ limiter.ledger.waiters := by
      rw [kept.queue]
      intro inside
      obtain ⟨call, member, same⟩ := List.mem_map.mp inside
      exact fresh call member same
    exact (List.erase_of_not_mem absent).trans kept.queue
  · intro call member held
    rcases (Ledger.grant_holds _ _ _).mp held with before | same
    · exact kept.idle call member before
    · exact fresh call member same

theorem Kept.ungrant (kept : limiter.Kept) (owner : Text) :
    (limiter.ungrant owner).Kept := by
  refine
    { balanced := kept.balanced.ungrant owner, apart := kept.apart,
      queue := ?_, idle := ?_ }
  · exact (Ledger.ungrant_waiters _ _).trans kept.queue
  · intro call member held
    exact kept.idle call member ((Ledger.ungrant_holds _ _ _).mp held).2

theorem Kept.park (kept : limiter.Kept) {call : SubordinateCall}
    (waits : ∃ other ∈ limiter.parked, other.owner = call.owner) :
    (limiter.park call).Kept := by
  have owners : (limiter.park call).parked.map SubordinateCall.owner =
      limiter.parked.map SubordinateCall.owner := map_key_rejoin waits
  refine
    { balanced := kept.balanced, apart := owners ▸ kept.apart,
      queue := kept.queue.trans owners.symm, idle := ?_ }
  intro other member
  obtain ⟨before, earlier, same⟩ := waits
  rcases of_mem_rejoin member with rfl | inside
  · rw [← same]
    exact kept.idle before earlier
  · exact kept.idle other inside.1

/-- An idle owner may enter the queue and the wait set. -/
theorem Kept.join (kept : limiter.Kept) (call : SubordinateCall)
    (fresh : ∀ other ∈ limiter.parked, other.owner ≠ call.owner)
    (idle : ¬ limiter.ledger.holds call.owner) :
    ({ limiter with
      ledger := limiter.ledger.enqueue call.owner }.park call).Kept := by
  have parked : ({ limiter with
      ledger := limiter.ledger.enqueue call.owner }.park call).parked =
        limiter.parked ++ [call] := rejoin_absent fresh
  refine
    { balanced := ⟨kept.balanced.owners, kept.balanced.slots⟩
      apart := nodup_rejoin kept.apart, queue := ?_, idle := ?_ }
  · rw [parked, List.map_append, ← kept.queue]
    rfl
  · intro other member
    rcases of_mem_rejoin member with rfl | inside
    · exact idle
    · exact kept.idle other inside.1

/-- Leaving forgets that the call was in the wait set. -/
theorem leave_park (limiter : SubordinateCallLimiter)
    (call : SubordinateCall) :
    (limiter.park call).leave call.owner = limiter.leave call.owner := by
  rw [leave, leave, park]
  simp only [without_rejoin]

end SubordinateCallLimiter

end ParityGrid.Application
