import Mathlib

/-!
# Injected clocks and token buckets

An instant is a whole number of microseconds since the epoch.  Clocks are
injected: a reading is whatever the clock answers, an exception included.  A
token bucket is refilled from the instants it is shown and from nothing else.
-/

namespace ParityGrid.Application

/-- A `UtcTimestamp`, as `_epoch_micros` counts it. -/
abbrev Instant := Int

/-- The first and the last instant that a timestamp can have. -/
def minInstant : Instant := -62135596800000000

def maxInstant : Instant := 253402300799999999

/-- `MAX_BURST`. -/
def maxBurst : Nat := 1000

/-- `MIN_TOKEN_MICROSECONDS`. -/
def minTokenMicroseconds : Nat := 1

/-- The failures of clocks and of rate policies. -/
inductive ClockPolicyError where
  /-- Whatever an injected clock raises. -/
  | clock
  | ratePolicy (message : String)
deriving DecidableEq

/-- One reading of an injected clock. -/
abbrev Reading := Except ClockPolicyError Instant

/-- A rate policy, with the spacing of `token_interval_micros`. -/
structure RateLimitPolicy where
  burst : Nat
  tokenIntervalMicros : Nat
  burst_positive : 1 ≤ burst
  burst_bounded : burst ≤ maxBurst
  interval_positive : minTokenMicroseconds ≤ tokenIntervalMicros
deriving DecidableEq

/-- Tokens, and the last refill seen. -/
structure TokenBucket where
  policy : RateLimitPolicy
  tokens : Nat
  lastSeenMicros : Option Instant
deriving DecidableEq

/-- A full bucket that has seen no instant. -/
def TokenBucket.full (policy : RateLimitPolicy) : TokenBucket where
  policy
  tokens := policy.burst
  lastSeenMicros := none

/-- `_refilled`: available tokens and the advanced refill instant. -/
def TokenBucket.refilled (bucket : TokenBucket) (now : Instant) :
    Except ClockPolicyError (Nat × Instant) :=
  match bucket.lastSeenMicros with
  | none => .ok (bucket.tokens, now)
  | some lastSeen =>
      if now < lastSeen then
        .error (.ratePolicy
          "token bucket instant precedes the last observed instant")
      else
        let refills := (now - lastSeen) / bucket.policy.tokenIntervalMicros
        .ok (min bucket.policy.burst (bucket.tokens + refills.toNat),
          lastSeen + refills * bucket.policy.tokenIntervalMicros)

/-- `try_acquire` of some tokens. -/
def TokenBucket.tryAcquire (bucket : TokenBucket) (now : Instant)
    (requested : Nat) : Except ClockPolicyError (Bool × TokenBucket) := do
  if requested < 1 then
    throw (.ratePolicy "token count must be at least one token")
  let (available, advanced) ← bucket.refilled now
  if requested ≤ available then
    pure (true, { bucket with
      tokens := available - requested
      lastSeenMicros := some advanced })
  else
    pure (false, { bucket with
      tokens := available
      lastSeenMicros := some advanced })

/-- `acquire_at`: the first instant at which the tokens are available. -/
def TokenBucket.acquireAt (bucket : TokenBucket) (now : Instant)
    (requested : Nat) : Except ClockPolicyError Instant := do
  if requested < 1 then
    throw (.ratePolicy "token count must be at least one token")
  if bucket.policy.burst < requested then
    throw (.ratePolicy
      "token request exceeds the burst bound and can never succeed")
  let (available, advanced) ← bucket.refilled now
  if requested ≤ available then
    pure now
  else
    let target := advanced +
      (requested - available : Nat) * bucket.policy.tokenIntervalMicros
    if target < minInstant ∨ maxInstant < target then
      throw (.ratePolicy
        "token acquisition time exceeds the timestamp bounds")
    pure target

end ParityGrid.Application
