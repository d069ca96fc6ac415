import ParityGrid.Application.Execution.ClockPolicy
import ParityGrid.Foundation.Validation

/-!
# Token buckets over time

The first instant that a bucket is shown fixes the grid of instants at which
it refills.  From then on `acquire_at` names the first instant at which an
acquisition succeeds, and what a bucket grants in a window of time is bounded
by its burst and the grid points of the window.
-/

namespace ParityGrid.Application

open ParityGrid.Foundation

namespace TokenBucket

/-- The constructor of a bucket. -/
def create (policy : RateLimitPolicy) (initialTokens : Option Int) :
    Except ClockPolicyError TokenBucket :=
  match initialTokens with
  | none => .ok (.full policy)
  | some tokens =>
      if 0 ≤ tokens ∧ tokens ≤ policy.burst then
        .ok { policy, tokens := tokens.toNat, lastSeenMicros := none }
      else
        .error (.ratePolicy
          "token bucket initial tokens are outside the burst bound")

variable {bucket after : TokenBucket} {now advanced : Int}
variable {available requested : Nat} {acquired : Bool}

/-! ## One call -/

theorem interval_pos (policy : RateLimitPolicy) :
    (0 : Int) < policy.tokenIntervalMicros := by
  have positive := policy.interval_positive
  rw [minTokenMicroseconds] at positive
  omega

theorem refilled_unseen (unseen : bucket.lastSeenMicros = none)
    (now : Instant) : bucket.refilled now = .ok (bucket.tokens, now) := by
  rw [refilled, unseen]

theorem refilled_seen {lastSeen : Int}
    (seen : bucket.lastSeenMicros = some lastSeen) (later : lastSeen ≤ now) :
    bucket.refilled now =
      .ok (min bucket.policy.burst (bucket.tokens +
          ((now - lastSeen) / bucket.policy.tokenIntervalMicros).toNat),
        lastSeen + (now - lastSeen) / bucket.policy.tokenIntervalMicros *
          bucket.policy.tokenIntervalMicros) := by
  rw [refilled, seen]
  exact if_neg (not_lt.mpr later)

theorem refilled_before {lastSeen : Int}
    (seen : bucket.lastSeenMicros = some lastSeen) (earlier : now < lastSeen) :
    bucket.refilled now = .error (.ratePolicy
      "token bucket instant precedes the last observed instant") := by
  rw [refilled, seen]
  exact if_pos earlier

/-- What a call of `try_acquire` answers, and what it leaves. -/
theorem tryAcquire_of_refilled (positive : 1 ≤ requested)
    (refills : bucket.refilled now = .ok (available, advanced)) :
    bucket.tryAcquire now requested =
      .ok (decide (requested ≤ available), { bucket with
        tokens := if requested ≤ available then available - requested
          else available
        lastSeenMicros := some advanced }) := by
  rw [tryAcquire, if_neg (not_lt.mpr positive), refills]
  by_cases enough : requested ≤ available
  · simp [enough, pure, Except.pure, bind, Except.bind]
  · simp [enough, pure, Except.pure, bind, Except.bind]

/-- Only a call that asks for some tokens, at an instant that is not too
early, answers. -/
theorem tryAcquire_eq_ok
    (answers : bucket.tryAcquire now requested = .ok (acquired, after)) :
    1 ≤ requested ∧ ∃ available advanced,
      bucket.refilled now = .ok (available, advanced) ∧
        acquired = decide (requested ≤ available) ∧
        after = { bucket with
          tokens := if requested ≤ available then available - requested
            else available
          lastSeenMicros := some advanced } := by
  have positive : 1 ≤ requested := by
    by_contra tooFew
    rw [tryAcquire, if_pos (not_le.mp tooFew)] at answers
    cases answers
  cases refills : bucket.refilled now with
  | error raised =>
      rw [tryAcquire, if_neg (not_lt.mpr positive), refills] at answers
      cases answers
  | ok refill =>
      obtain ⟨available, advanced⟩ := refill
      rw [tryAcquire_of_refilled positive refills] at answers
      cases answers
      exact ⟨positive, available, advanced, rfl, rfl, rfl⟩

/-! ## The projected instant -/

/-- What a projection answers: this instant, or the grid point at which the
missing tokens are refilled. -/
theorem acquireAt_eq_ok {projected : Int}
    (projects : bucket.acquireAt now requested = .ok projected) :
    1 ≤ requested ∧ requested ≤ bucket.policy.burst ∧
      ∃ available advanced,
        bucket.refilled now = .ok (available, advanced) ∧
          (requested ≤ available ∧ projected = now ∨
            available < requested ∧
              projected = advanced + (requested - available : Nat) *
                bucket.policy.tokenIntervalMicros) := by
  rw [acquireAt] at projects
  split at projects
  · cases projects
  rename_i positive
  split at projects
  · cases projects
  rename_i bounded
  refine ⟨not_lt.mp positive, not_lt.mp bounded, ?_⟩
  cases refills : bucket.refilled now with
  | error raised =>
      rw [refills] at projects
      cases projects
  | ok refill =>
      obtain ⟨available, advanced⟩ := refill
      refine ⟨available, advanced, rfl, ?_⟩
      rw [refills] at projects
      change (if requested ≤ available then pure now else _) = _ at projects
      by_cases enough : requested ≤ available
      · rw [if_pos enough] at projects
        cases projects
        exact .inl ⟨enough, rfl⟩
      · rw [if_neg enough] at projects
        dsimp only at projects
        split at projects
        · cases projects
        · cases projects
          exact .inr ⟨not_le.mp enough, rfl⟩

/-- A call of `try_acquire` at an instant acquires, or is turned away. -/
def Succeeds (bucket : TokenBucket) (instant : Instant) (requested : Nat) :
    Prop :=
  ∃ after, bucket.tryAcquire instant requested = .ok (true, after)

def Fails (bucket : TokenBucket) (instant : Instant) (requested : Nat) :
    Prop :=
  ∃ after, bucket.tryAcquire instant requested = .ok (false, after)

/-- The instant is the first one from now on at which the acquisition
succeeds. -/
def EarliestAt (bucket : TokenBucket) (now projected : Instant)
    (requested : Nat) : Prop :=
  bucket.Succeeds projected requested ∧
    ∀ instant, now ≤ instant → instant < projected →
      bucket.Fails instant requested

theorem succeeds_of_refilled {instant : Int} (positive : 1 ≤ requested)
    (refills : bucket.refilled instant = .ok (available, advanced))
    (enough : requested ≤ available) : bucket.Succeeds instant requested := by
  have answers := tryAcquire_of_refilled positive refills
  rw [decide_eq_true enough] at answers
  exact ⟨_, answers⟩

theorem fails_of_refilled {instant : Int} (positive : 1 ≤ requested)
    (refills : bucket.refilled instant = .ok (available, advanced))
    (short : available < requested) : bucket.Fails instant requested := by
  have answers := tryAcquire_of_refilled positive refills
  rw [decide_eq_false (not_le.mpr short)] at answers
  exact ⟨_, answers⟩

theorem not_succeeds_of_refilled {instant : Int}
    (refills : bucket.refilled instant = .ok (available, advanced))
    (short : available < requested) :
    ¬bucket.Succeeds instant requested := by
  rintro ⟨after, answers⟩
  obtain ⟨_, available', advanced', refills', acquired, _⟩ :=
    tryAcquire_eq_ok answers
  rw [refills] at refills'
  cases refills'
  exact absurd (of_decide_eq_true acquired.symm) (not_le.mpr short)

/-- A bucket that has seen an instant holds some tokens later on exactly from
the grid point on at which the missing ones are refilled. -/
theorem refilled_enough_iff {lastSeen instant : Int}
    (seen : bucket.lastSeenMicros = some lastSeen) (later : lastSeen ≤ instant)
    (bounded : requested ≤ bucket.policy.burst)
    (refills : bucket.refilled instant = .ok (available, advanced)) :
    requested ≤ available ↔
      lastSeen + (requested - bucket.tokens : Nat) *
        bucket.policy.tokenIntervalMicros ≤ instant := by
  have spacing := interval_pos bucket.policy
  rw [refilled_seen seen later] at refills
  cases refills
  have passed : 0 ≤ (instant - lastSeen) / bucket.policy.tokenIntervalMicros :=
    Int.ediv_nonneg (by omega) spacing.le
  calc requested ≤ min bucket.policy.burst (bucket.tokens +
          ((instant - lastSeen) / bucket.policy.tokenIntervalMicros).toNat)
      ↔ ((requested - bucket.tokens : Nat) : Int) ≤
          (instant - lastSeen) / bucket.policy.tokenIntervalMicros := by
        omega
    _ ↔ (requested - bucket.tokens : Nat) *
          (bucket.policy.tokenIntervalMicros : Int) ≤ instant - lastSeen :=
        Int.le_ediv_iff_mul_le spacing
    _ ↔ _ := by
        omega

/-- A bucket that has seen an instant projects the first instant at which the
acquisition succeeds. -/
theorem earliestAt_of_seen {projected lastSeen : Int}
    (seen : bucket.lastSeenMicros = some lastSeen)
    (projects : bucket.acquireAt now requested = .ok projected) :
    bucket.EarliestAt now projected requested := by
  obtain ⟨positive, bounded, available, advanced, refills, answer⟩ :=
    acquireAt_eq_ok projects
  have later : lastSeen ≤ now := by
    by_contra earlier
    rw [refilled_before seen (not_le.mp earlier)] at refills
    cases refills
  rcases answer with ⟨enough, rfl⟩ | ⟨short, rfl⟩
  · refine ⟨succeeds_of_refilled positive refills enough, ?_⟩
    intro instant notBefore before
    exact absurd notBefore (not_le.mpr before)
  · have spacing := interval_pos bucket.policy
    have grid : advanced + (requested - available : Nat) *
        bucket.policy.tokenIntervalMicros =
        lastSeen + (requested - bucket.tokens : Nat) *
          bucket.policy.tokenIntervalMicros := by
      rw [refilled_seen seen later] at refills
      cases refills
      -- The cap is out of the way, since the request is within the burst.
      have passed :
          0 ≤ (now - lastSeen) / bucket.policy.tokenIntervalMicros :=
        Int.ediv_nonneg (by omega) spacing.le
      have missing : ((requested - bucket.tokens : Nat) : Int) =
          (requested - min bucket.policy.burst (bucket.tokens +
            ((now - lastSeen) / bucket.policy.tokenIntervalMicros).toNat) :
              Nat) +
            (now - lastSeen) / bucket.policy.tokenIntervalMicros := by
        omega
      rw [missing]
      ring
    rw [grid]
    have reaches : ¬requested ≤ available := not_le.mpr short
    rw [refilled_enough_iff seen later bounded refills] at reaches
    constructor
    · have seenBefore : lastSeen ≤ lastSeen +
          (requested - bucket.tokens : Nat) *
            (bucket.policy.tokenIntervalMicros : Int) := by
        omega
      exact succeeds_of_refilled positive (refilled_seen seen seenBefore)
        ((refilled_enough_iff seen seenBefore bounded
          (refilled_seen seen seenBefore)).mpr le_rfl)
    · intro instant notBefore before
      have seenBefore : lastSeen ≤ instant := later.trans notBefore
      refine fails_of_refilled positive (refilled_seen seen seenBefore) ?_
      rw [← not_le, refilled_enough_iff seen seenBefore bounded
        (refilled_seen seen seenBefore)]
      exact not_le.mpr before

/-- `acquire_at` names the first instant at which the acquisition succeeds
exactly when the bucket has seen an instant, or holds the tokens already: the
projection does not fix the refill grid of a bucket that has seen none. -/
theorem acquireAt_earliest_iff {projected : Int}
    (projects : bucket.acquireAt now requested = .ok projected) :
    bucket.EarliestAt now projected requested ↔
      bucket.lastSeenMicros ≠ none ∨ requested ≤ bucket.tokens := by
  cases seen : bucket.lastSeenMicros with
  | some lastSeen =>
      simp only [ne_eq, reduceCtorEq, not_false_eq_true, true_or, iff_true]
      exact earliestAt_of_seen seen projects
  | none =>
      simp only [ne_eq, not_true_eq_false, false_or]
      obtain ⟨positive, _, available, advanced, refills, answer⟩ :=
        acquireAt_eq_ok projects
      rw [refilled_unseen seen] at refills
      cases refills
      constructor
      · rintro ⟨succeeds, _⟩
        by_contra short
        exact not_succeeds_of_refilled (refilled_unseen seen projected)
          (not_le.mp short) succeeds
      · intro enough
        rcases answer with ⟨_, rfl⟩ | ⟨short, _⟩
        · refine ⟨succeeds_of_refilled positive (refilled_unseen seen _)
            enough, ?_⟩
          intro instant notBefore before
          exact absurd notBefore (not_le.mpr before)
        · exact absurd enough (not_le.mpr short)

/-- A policy of one token a second. -/
def everySecond : RateLimitPolicy where
  burst := 1
  tokenIntervalMicros := 1000000
  burst_positive := by decide
  burst_bounded := by decide
  interval_positive := by decide

/-- An empty bucket before its first instant. -/
def unseenEmpty : TokenBucket where
  policy := everySecond
  tokens := 0
  lastSeenMicros := none

theorem acquireAt_earliest_iff_everySecond :
    create everySecond (some 0) = .ok unseenEmpty ∧
      unseenEmpty.acquireAt 0 1 = .ok 1000000 ∧
      (unseenEmpty.EarliestAt 0 1000000 1 ↔
        unseenEmpty.lastSeenMicros ≠ none ∨ 1 ≤ unseenEmpty.tokens) :=
  ⟨by rfl, by decide, acquireAt_earliest_iff (by decide)⟩

/-- The projected instant of an empty bucket that has seen no instant is
refused: the grid starts only there. -/
theorem acquireAt_refused :
    create everySecond (some 0) = .ok unseenEmpty ∧
      unseenEmpty.acquireAt 0 1 = .ok 1000000 ∧
      (unseenEmpty.tryAcquire 1000000 1).map Prod.fst = .ok false := by
  refine ⟨by rfl, by decide, by decide⟩

/-! ## Runs of calls -/

/-- One call of `try_acquire`. -/
structure AcquireCall where
  now : Instant
  requested : Int
deriving DecidableEq

/-- A call that answered, with the bucket before and after it. -/
structure AcquireRecord where
  call : AcquireCall
  acquired : Bool
  before : TokenBucket
  after : TokenBucket
deriving DecidableEq

/-- The calls of a sequence that answer.  A call that raises leaves the bucket
as it is; every request below one token raises as a request for none does. -/
def history (bucket : TokenBucket) : List AcquireCall → List AcquireRecord
  | [] => []
  | call :: rest =>
      match bucket.tryAcquire call.now call.requested.toNat with
      | .ok (acquired, after) =>
          { call, acquired, before := bucket, after } :: after.history rest
      | .error _ => bucket.history rest

/-- The tokens granted in a closed window of time. -/
def grantedIn (first last : Instant) (records : List AcquireRecord) : Int :=
  ((records.filter fun record =>
      record.acquired ∧ first ≤ record.call.now ∧ record.call.now ≤ last).map
    fun record => record.call.requested).sum

variable {call : AcquireCall} {rest calls : List AcquireCall}

theorem history_ok
    (answers : bucket.tryAcquire call.now call.requested.toNat =
      .ok (acquired, after)) (rest : List AcquireCall) :
    bucket.history (call :: rest) =
      { call, acquired, before := bucket, after } :: after.history rest := by
  rw [history, answers]

theorem history_error {raised : ClockPolicyError}
    (raises : bucket.tryAcquire call.now call.requested.toNat =
      .error raised) (rest : List AcquireCall) :
    bucket.history (call :: rest) = bucket.history rest := by
  rw [history, raises]

/-- The tokens that a call takes. -/
def spent (call : AcquireCall) (acquired : Bool) : Int :=
  if acquired then call.requested else 0

/-- What one answered call does to a bucket: it moves the observed instant to
the last grid point, and spends at most what the bucket held and the grid
points passed. -/
structure Served (bucket : TokenBucket) (call : AcquireCall) (acquired : Bool)
    (after : TokenBucket) (observed : Int) : Prop where
  policy_eq : after.policy = bucket.policy
  seen : after.lastSeenMicros = some observed
  notPast : observed ≤ call.now
  near : call.now < observed + bucket.policy.tokenIntervalMicros
  nonneg : 0 ≤ spent call acquired
  capped : bucket.tokens ≤ bucket.policy.burst →
    after.tokens + spent call acquired ≤ bucket.policy.burst
  spends : ∀ lastSeen, bucket.lastSeenMicros = some lastSeen →
    ∃ refills : Nat,
      observed = lastSeen + refills * bucket.policy.tokenIntervalMicros ∧
        after.tokens + spent call acquired ≤ bucket.tokens + refills

theorem exists_served
    (answers : bucket.tryAcquire call.now call.requested.toNat =
      .ok (acquired, after)) :
    ∃ observed, Served bucket call acquired after observed := by
  have spacing := interval_pos bucket.policy
  obtain ⟨positive, available, advanced, refills, rfl, rfl⟩ :=
    tryAcquire_eq_ok answers
  -- The call takes nothing from what is available but what it spends.
  have takes : ((if call.requested.toNat ≤ available then
      available - call.requested.toNat else available : Nat) : Int) +
        spent call (decide (call.requested.toNat ≤ available)) =
      available := by
    by_cases enough : call.requested.toNat ≤ available
    · simp only [enough, if_true, spent, decide_true]
      omega
    · simp [enough, spent]
  have nonneg : 0 ≤ spent call (decide (call.requested.toNat ≤ available)) := by
    rw [spent]
    split
    · omega
    · exact le_rfl
  cases seen : bucket.lastSeenMicros with
  | none =>
      rw [refilled_unseen seen] at refills
      cases refills
      refine ⟨call.now, rfl, rfl, le_rfl, lt_add_of_pos_right _ spacing,
        nonneg, ?_, ?_⟩
      · intro capped
        exact takes.trans_le (by exact_mod_cast capped)
      · intro lastSeen seen'
        rw [seen] at seen'
        cases seen'
  | some lastSeen =>
      have later : lastSeen ≤ call.now := by
        by_contra earlier
        rw [refilled_before seen (not_le.mp earlier)] at refills
        cases refills
      rw [refilled_seen seen later] at refills
      have passed :
          0 ≤ (call.now - lastSeen) / bucket.policy.tokenIntervalMicros :=
        Int.ediv_nonneg (sub_nonneg.mpr later) spacing.le
      have division := Int.emod_add_mul_ediv (call.now - lastSeen)
        bucket.policy.tokenIntervalMicros
      have remainder_nonneg := Int.emod_nonneg (call.now - lastSeen)
        spacing.ne'
      have remainder_lt := Int.emod_lt_of_pos (call.now - lastSeen) spacing
      rw [mul_comm] at division
      obtain ⟨rfl, rfl⟩ := Prod.mk.inj (Except.ok.inj refills)
      refine ⟨_, rfl, rfl, ?_, ?_, nonneg, ?_, ?_⟩
      · linarith
      · linarith
      · intro _
        exact takes.trans_le (by exact_mod_cast min_le_left _ _)
      · intro lastSeen' seen'
        rw [seen] at seen'
        cases seen'
        refine ⟨((call.now - lastSeen) /
          bucket.policy.tokenIntervalMicros).toNat, ?_, ?_⟩
        · rw [Int.toNat_of_nonneg passed]
        · exact takes.trans_le (by exact_mod_cast min_le_right _ _)

/-! ## The granted tokens of a window -/

@[simp]
theorem grantedIn_nil (first last : Instant) : grantedIn first last [] = 0 := by
  simp [grantedIn]

theorem grantedIn_cons_inside {first last : Int} {record : AcquireRecord}
    (inside : first ≤ record.call.now ∧ record.call.now ≤ last)
    (records : List AcquireRecord) :
    grantedIn first last (record :: records) =
      spent record.call record.acquired + grantedIn first last records := by
  cases acquired : record.acquired with
  | true => simp [grantedIn, spent, inside, acquired]
  | false => simp [grantedIn, spent, acquired]

theorem grantedIn_cons_outside {first last : Int} {record : AcquireRecord}
    (outside : ¬(first ≤ record.call.now ∧ record.call.now ≤ last))
    (records : List AcquireRecord) :
    grantedIn first last (record :: records) =
      grantedIn first last records := by
  simp [grantedIn, outside]

/-- Every record of a history is of a call of the sequence. -/
theorem call_mem_of_mem_history {record : AcquireRecord} :
    ∀ {calls : List AcquireCall} {bucket : TokenBucket},
      record ∈ bucket.history calls → record.call ∈ calls := by
  intro calls
  induction calls with
  | nil =>
      intro bucket recorded
      rw [history] at recorded
      exact absurd recorded List.not_mem_nil
  | cons call rest induction =>
      intro bucket recorded
      cases answers : bucket.tryAcquire call.now call.requested.toNat with
      | error raised =>
          rw [history_error answers] at recorded
          exact List.mem_cons_of_mem _ (induction recorded)
      | ok answer =>
          obtain ⟨acquired, after⟩ := answer
          rw [history_ok answers] at recorded
          rcases List.mem_cons.mp recorded with rfl | recorded
          · exact List.mem_cons_self
          · exact List.mem_cons_of_mem _ (induction recorded)

/-- Nothing is granted in a window that every call comes after. -/
theorem grantedIn_of_later {first last : Int}
    (later : ∀ call ∈ calls, last < call.now) :
    grantedIn first last (bucket.history calls) = 0 := by
  have outside : (bucket.history calls).filter (fun record =>
      record.acquired ∧ first ≤ record.call.now ∧ record.call.now ≤ last) =
        [] := by
    rw [List.filter_eq_nil_iff]
    intro record recorded
    have after := later _ (call_mem_of_mem_history recorded)
    simp [after]
  rw [grantedIn, outside]
  rfl

/-- A bucket that has seen an instant grants up to a later instant at most
what it holds and the grid points until then. -/
theorem grantedIn_of_seen {first last : Int} :
    ∀ {calls : List AcquireCall} {bucket : TokenBucket} {lastSeen : Int},
      calls.Pairwise (fun call later => call.now ≤ later.now) →
      bucket.lastSeenMicros = some lastSeen → lastSeen ≤ last →
      grantedIn first last (bucket.history calls) ≤
        bucket.tokens +
          (last - lastSeen) / bucket.policy.tokenIntervalMicros := by
  intro calls
  induction calls with
  | nil =>
      intro bucket lastSeen _ _ notPast
      have rest := Int.ediv_nonneg (sub_nonneg.mpr notPast)
        (interval_pos bucket.policy).le
      rw [history, grantedIn_nil]
      omega
  | cons call rest induction =>
      intro bucket lastSeen ordered seen notPast
      obtain ⟨orderedFirst, ordered⟩ := List.pairwise_cons.mp ordered
      have spacing := interval_pos bucket.policy
      cases answers : bucket.tryAcquire call.now call.requested.toNat with
      | error raised =>
          rw [history_error answers]
          exact induction ordered seen notPast
      | ok answer =>
          obtain ⟨acquired, after⟩ := answer
          obtain ⟨observed, served⟩ := exists_served answers
          by_cases beyond : last < call.now
          · -- The window is over.
            rw [grantedIn_of_later]
            · have rest := Int.ediv_nonneg (sub_nonneg.mpr notPast) spacing.le
              omega
            · intro later among
              rcases List.mem_cons.mp among with rfl | among
              · exact beyond
              · exact beyond.trans_le (orderedFirst later among)
          · obtain ⟨refills, moved, kept⟩ := served.spends lastSeen seen
            have observedBefore : observed ≤ last :=
              served.notPast.trans (not_lt.mp beyond)
            have remaining := induction ordered served.seen observedBefore
            have passed : (last - lastSeen) /
                  bucket.policy.tokenIntervalMicros =
                (last - observed) / bucket.policy.tokenIntervalMicros +
                  refills := by
              rw [← Int.add_mul_ediv_right _ _ spacing.ne', moved]
              congr 1
              ring
            rw [served.policy_eq] at remaining
            rw [history_ok answers]
            by_cases inside : first ≤ call.now
            · rw [grantedIn_cons_inside ⟨inside, not_lt.mp beyond⟩]
              dsimp only
              omega
            · rw [grantedIn_cons_outside (fun within => inside within.1)]
              have nonneg := served.nonneg
              omega

/-- A window of time grants at most the burst, the grid points that fit in it
and the one before. -/
theorem grantedIn_of_bounded {first last : Int} (window : first ≤ last) :
    ∀ {calls : List AcquireCall} {bucket : TokenBucket},
      calls.Pairwise (fun call later => call.now ≤ later.now) →
      bucket.tokens ≤ bucket.policy.burst →
      grantedIn first last (bucket.history calls) ≤
        bucket.policy.burst +
          (last - first) / bucket.policy.tokenIntervalMicros + 1 := by
  intro calls
  induction calls with
  | nil =>
      intro bucket _ _
      have rest := Int.ediv_nonneg (sub_nonneg.mpr window)
        (interval_pos bucket.policy).le
      rw [history, grantedIn_nil]
      omega
  | cons call rest induction =>
      intro bucket ordered bounded
      obtain ⟨orderedFirst, ordered⟩ := List.pairwise_cons.mp ordered
      have spacing := interval_pos bucket.policy
      have fits := Int.ediv_nonneg (sub_nonneg.mpr window) spacing.le
      cases answers : bucket.tryAcquire call.now call.requested.toNat with
      | error raised =>
          rw [history_error answers]
          exact induction ordered bounded
      | ok answer =>
          obtain ⟨acquired, after⟩ := answer
          obtain ⟨observed, served⟩ := exists_served answers
          have capped := served.capped bounded
          have nonneg := served.nonneg
          by_cases inside : first ≤ call.now ∧ call.now ≤ last
          · -- The first call of the window: its grid point is at most one
            -- interval before the window.
            rw [history_ok answers, grantedIn_cons_inside inside]
            have remaining : grantedIn first last (after.history rest) ≤ _ :=
              grantedIn_of_seen ordered served.seen
                (served.notPast.trans inside.2)
            rw [served.policy_eq] at remaining
            have near := served.near
            have within : (last - observed) /
                  bucket.policy.tokenIntervalMicros ≤
                (last - first) / bucket.policy.tokenIntervalMicros + 1 := by
              rw [← Int.add_mul_ediv_right _ _ spacing.ne']
              refine Int.ediv_le_ediv spacing ?_
              have start := inside.1
              linarith
            dsimp only
            omega
          · rw [history_ok answers, grantedIn_cons_outside inside]
            rw [← served.policy_eq]
            refine induction ordered ?_
            rw [served.policy_eq]
            omega

/-- What a record of a history shows: a count within the burst, and an
observed instant that moves neither backwards nor past the caller's. -/
structure AcquireRecord.Steady (record : AcquireRecord)
    (policy : RateLimitPolicy) : Prop where
  before_bounded : record.before.tokens ≤ policy.burst
  after_bounded : record.after.tokens ≤ policy.burst
  observes : ∃ observed, record.after.lastSeenMicros = some observed ∧
    observed ≤ record.call.now ∧
    ∀ lastSeen, record.before.lastSeenMicros = some lastSeen →
      lastSeen ≤ observed

theorem steady_of_mem_history {record : AcquireRecord} :
    ∀ {calls : List AcquireCall} {bucket : TokenBucket},
      bucket.tokens ≤ bucket.policy.burst → record ∈ bucket.history calls →
      record.Steady bucket.policy := by
  intro calls
  induction calls with
  | nil =>
      intro bucket _ recorded
      rw [history] at recorded
      exact absurd recorded List.not_mem_nil
  | cons call rest induction =>
      intro bucket bounded recorded
      cases answers : bucket.tryAcquire call.now call.requested.toNat with
      | error raised =>
          rw [history_error answers] at recorded
          exact induction bounded recorded
      | ok answer =>
          obtain ⟨acquired, after⟩ := answer
          obtain ⟨observed, served⟩ := exists_served answers
          have capped := served.capped bounded
          have nonneg := served.nonneg
          rw [history_ok answers] at recorded
          rcases List.mem_cons.mp recorded with rfl | recorded
          · refine ⟨bounded, ?_, observed, served.seen, served.notPast, ?_⟩
            · dsimp only
              omega
            · intro lastSeen seen
              obtain ⟨refills, moved, _⟩ := served.spends lastSeen seen
              rw [moved]
              exact le_add_of_nonneg_right (mul_nonneg
                (Int.natCast_nonneg refills) (interval_pos bucket.policy).le)
          · rw [← served.policy_eq]
            refine induction ?_ recorded
            rw [served.policy_eq]
            omega

theorem create_eq_ok {policy : RateLimitPolicy} {initialTokens : Option Int}
    (created : create policy initialTokens = .ok bucket) :
    bucket.policy = policy ∧ bucket.tokens ≤ bucket.policy.burst := by
  cases initialTokens with
  | none =>
      rw [create] at created
      cases created
      exact ⟨rfl, le_rfl⟩
  | some tokens =>
      rw [create] at created
      split at created
      · rename_i bounds
        cases created
        exact ⟨rfl, Int.toNat_le.mpr bounds.2⟩
      · cases created

/-- A bucket grants in a closed window at most its burst, the intervals that
fit in the window and one token more, whatever calls at instants that never
decrease it serves. -/
theorem history_rate_bounded {policy : RateLimitPolicy}
    {initialTokens : Option Int}
    (created : create policy initialTokens = .ok bucket)
    (ordered : calls.Pairwise fun call later => call.now ≤ later.now) :
    (∀ first last : Instant, first ≤ last →
      grantedIn first last (bucket.history calls) ≤
        policy.burst + (last - first) / policy.tokenIntervalMicros + 1) ∧
      ∀ record ∈ bucket.history calls, record.Steady policy := by
  obtain ⟨rfl, bounded⟩ := create_eq_ok created
  exact ⟨fun first last window => grantedIn_of_bounded window ordered bounded,
    fun record recorded => steady_of_mem_history bounded recorded⟩

/-- Three calls against the policy of one token a second: the second one comes
too early. -/
def threeCalls : List AcquireCall :=
  [⟨0, 1⟩, ⟨500000, 1⟩, ⟨1000000, 1⟩]

theorem history_rate_bounded_everySecond :
    ((TokenBucket.full everySecond).history threeCalls).map
        AcquireRecord.acquired = [true, false, true] ∧
      (∀ first last : Instant, first ≤ last →
        grantedIn first last
            ((TokenBucket.full everySecond).history threeCalls) ≤
          everySecond.burst +
            (last - first) / everySecond.tokenIntervalMicros + 1) ∧
      ∀ record ∈ (TokenBucket.full everySecond).history threeCalls,
        record.Steady everySecond :=
  ⟨by decide, history_rate_bounded
    (show create everySecond none = .ok (.full everySecond) from rfl)
    (by decide)⟩

end TokenBucket

end ParityGrid.Application
