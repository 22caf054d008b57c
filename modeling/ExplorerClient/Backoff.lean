import ExplorerClient.Binary64
import ExplorerClient.Duration

/-!
# Waiting between attempts

The wait after a failed attempt grows by a factor from attempt to attempt up to a ceiling, and a
random jitter is put on top of it. The growth is computed in double precision.

Results:
* `delay_without_jitter`: without jitter the wait is the grown one.
* `jitter_lt`: a jitter is below its bound.
-/

namespace ExplorerClient

/-- A policy for the waits between attempts. -/
structure Backoff where
  /-- The wait after the first attempt. -/
  initial : Duration
  /-- The longest wait, before the jitter. -/
  max : Duration
  /-- The growth from one wait to the next. -/
  factor : Binary64
  /-- What the jitter stays below. -/
  maxJitter : Duration
  deriving DecidableEq

namespace Backoff

/-- The policy of a client that chooses none (`default`). -/
def standard : Backoff where
  initial := .ofMillis 2
  max := .ofMillis 10
  factor := .ofNat 2
  maxJitter := .ofMillis 2

/-- The initial wait grown to the given attempt, in nanoseconds. -/
def scaled (b : Backoff) (attempt : Nat) : Binary64 :=
  (Binary64.ofNat b.initial.nanos).mul (b.factor.pow (min attempt 0x7fffffff))

/-- A positive finite wait in nanoseconds as a duration. From two to the power 64 on it is taken in
seconds, and then need not be a duration at all. -/
def ofScaled? (x : Binary64) : Option Duration :=
  if x.lt (.ofNat 0x10000000000000000) then some (.ofNanos x.truncated)
  else Duration.ofNanos? ((x.divNat 1000000000).scaledRound 1000000000)

/-- The wait after the given attempt, counted from zero, before the jitter (`base_delay`). -/
def baseDelay (b : Backoff) (attempt : Nat) : Duration :=
  let x := b.scaled attempt
  if x.isNaN || x.le .zero then .zero
  else if (Binary64.ofNat b.max.nanos).le x then b.max
  else (ofScaled? x).getD b.max

/-- What the jitter stays below, in nanoseconds. -/
def jitterBound (b : Backoff) : Nat := min b.maxJitter.nanos 0xffffffffffffffff

/-- The jitter that a random number makes, in nanoseconds. -/
def jitter (b : Backoff) (random : Nat) : Nat :=
  if b.jitterBound = 0 then 0 else random % b.jitterBound

/-- The wait after the given attempt, counted from zero. -/
def delay (b : Backoff) (attempt random : Nat) : Duration :=
  (b.baseDelay attempt).add (.ofNanos (b.jitter random))

theorem jitter_lt {b : Backoff} (h : 0 < b.jitterBound) (random : Nat) :
    b.jitter random < b.jitterBound := by
  rw [jitter, if_neg (by omega)]
  exact Nat.mod_lt _ h

theorem delay_without_jitter {b : Backoff} (h : b.maxJitter.nanos = 0) (attempt random : Nat) :
    b.delay attempt random = b.baseDelay attempt := by
  have bound : b.jitterBound = 0 := by simp [jitterBound, h]
  have none : b.jitter random = 0 := by simp [jitter, bound]
  rw [delay, none, Duration.add_none]

end Backoff

end ExplorerClient
