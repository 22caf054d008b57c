import ExplorerClient.Backoff
import ExplorerClient.Http.Executor

/-!
# Retrying

A request that failed for a passing reason is sent again after a wait, a bounded number of times.
What the last attempt brings is returned as it is. The end of the context is no passing reason, and
it cuts a wait short.

Results:
* `retry_stream`: a request whose body is a stream is refused before the first attempt.
-/

namespace ExplorerClient

/-- Is the status one of a failure that may pass (`is_retryable_status`)? -/
def isRetryableStatus (status : Nat) : Bool :=
  status == 429 || status == 500 || status == 502 || status == 503 || status == 504

/-- May another attempt bring another outcome (`should_retry`)? -/
def shouldRetry : Except Error Response → Bool
  | .ok response => isRetryableStatus response.status
  | .error e => !e.isContext

/-- How often a request is sent again, and how long to wait before. -/
structure RetryPolicy where
  backoff : Backoff
  count : Nat
  deriving DecidableEq

namespace Executor

variable {σ : Type}

/-- Sends a request, and sends it again up to `left` times (`execute_with_retry`). The attempts
before this one are `attempt` in number. -/
def retryFrom (inner : Executor σ) (backoff : Backoff) (random : Nat → Nat) (c : Context)
    (request : Request) : (left attempt : Nat) → World σ →
    Option (Except Error Response × World σ)
  | 0, _, w => inner c request w
  | left + 1, attempt, w =>
    match inner c request w with
    | none => none
    | some (outcome, w) =>
      if shouldRetry outcome then
        match w.pause c (backoff.delay attempt (random attempt)).nanos with
        | (some ended, w) => some (.error ended, w)
        | (none, w) => retryFrom inner backoff random c request left (attempt + 1) w
      else some (outcome, w)

/-- An executor that retries what another one carries out (`RetryingExecutor`). The random numbers
of the waits are those of `random`, by attempt. -/
def retrying (inner : Executor σ) (policy : RetryPolicy) (random : Nat → Nat) : Executor σ :=
  fun c request w =>
    match request.replay? with
    | none => some (.error (.requestBody "streaming bodies cannot be buffered"), w)
    | some parts => retryFrom inner policy.backoff random c parts.request policy.count 0 w

theorem retry_stream {request : Request} {bytes : ByteArray}
    (h : request.body = some (.stream bytes)) (inner : Executor σ) (policy : RetryPolicy)
    (random : Nat → Nat) (c : Context) (w : World σ) :
    retrying inner policy random c request w =
      some (.error (.requestBody "streaming bodies cannot be buffered"), w) := by
  simp [retrying, Request.replay?_stream h]

end Executor

end ExplorerClient
