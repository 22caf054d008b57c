import ExplorerClient.Http.Retry
import ExplorerClient.Proofs.Waiting
import Mathlib.Data.Nat.Find
import Mathlib.Order.Bounds.Basic

/-!
# What a retrying executor asks for

The executor that is retried is taken as it comes: it may answer anything, change its mind, take its
time, or never answer. Its tape is what it would answer if it were asked for the same again and
again, with the waits of the policy between. A retrying executor plays the tape up to the first
outcome that is no reason to go on, or to the last attempt it has.

To see the attempts the executor is watched, which changes nothing of what it does.

Results:
* `retryFrom_cases`: all that can become of retries after an attempt.
* `retryFrom_eq_tape`: a retrying executor stops at the first outcome that is no reason to go on.
* `attempts_played`: what is seen of the attempts, and of the waits between them.
* `retrying_tape`: under a context that lasts, which outcome is returned, after how many attempts
  and with which waits.
-/

namespace ExplorerClient

variable {σ : Type}

/-! ## Outcomes -/

/-- Is the outcome one that may pass? -/
def Passing : Except Error Response → Prop
  | .ok response => response.status ∈ [429, 500, 502, 503, 504]
  | .error e => e.kind ≠ .canceled ∧ e.kind ≠ .deadlineExceeded

theorem shouldRetry_iff (outcome : Except Error Response) :
    shouldRetry outcome = true ↔ Passing outcome := by
  cases outcome with
  | ok response => simp [shouldRetry, isRetryableStatus, Passing, or_assoc]
  | error e => cases e <;> simp [shouldRetry, Passing, Error.isContext, Error.kind]

/-! ## One attempt -/

namespace Executor

/-- What is left of the retries when the answer to an attempt is there. -/
theorem retryFrom_succ {inner : Executor σ} {backoff : Backoff} {random : Nat → Nat} {c : Context}
    {request : Request} {w v : World σ} {outcome : Except Error Response}
    (answered : inner c request w = some (outcome, v)) (left attempt : Nat) :
    inner.retryFrom backoff random c request (left + 1) attempt w =
      if shouldRetry outcome then
        match v.pause c (backoff.delay attempt (random attempt)).nanos with
        | (some ended, u) => some (.error ended, u)
        | (none, u) => inner.retryFrom backoff random c request left (attempt + 1) u
      else some (outcome, v) := by
  cases waited : v.pause c (backoff.delay attempt (random attempt)).nanos with
  | mk ended u =>
    by_cases again : shouldRetry outcome = true
    · rw [if_pos again]
      cases ended <;> simp [retryFrom, answered, again, waited]
    · simp [retryFrom, answered, again]

/-- How retries that may go on come to an outcome. -/
theorem retryFrom_cases {inner : Executor σ} {backoff : Backoff} {random : Nat → Nat} {c : Context}
    {request : Request} {left attempt : Nat} {w v : World σ} {outcome : Except Error Response}
    (h : inner.retryFrom backoff random c request (left + 1) attempt w = some (outcome, v)) :
    ∃ o u, inner c request w = some (o, u) ∧
      ((shouldRetry o = false ∧ outcome = o ∧ v = u) ∨
      (∃ ended, u.pause c (backoff.delay attempt (random attempt)).nanos = (some ended, v) ∧
        outcome = .error ended) ∨
      ∃ u', u.pause c (backoff.delay attempt (random attempt)).nanos = (none, u') ∧
        inner.retryFrom backoff random c request left (attempt + 1) u' = some (outcome, v)) := by
  cases asked : inner c request w with
  | none =>
    rw [retryFrom, asked] at h
    cases h
  | some answered =>
    obtain ⟨o, u⟩ := answered
    rw [retryFrom_succ asked] at h
    refine ⟨o, u, rfl, ?_⟩
    by_cases again : shouldRetry o = true
    · rw [if_pos again] at h
      refine Or.inr ?_
      split at h
      · rename_i ended u' cut
        cases h
        exact Or.inl ⟨ended, cut, rfl⟩
      · rename_i u' waited
        exact Or.inr ⟨u', waited, h⟩
    · rw [if_neg again] at h
      cases h
      exact Or.inl ⟨by simpa using again, rfl, rfl⟩

end Executor

/-! ## Tapes -/

namespace Executor

section

variable (inner : Executor σ) (backoff : Backoff) (random : Nat → Nat) (c : Context)
  (request : Request)

/-- The outcomes of an executor that is asked for a request again and again, from the attempt
`first` on, with the world after each of them. -/
def tape : (first : Nat) → World σ → Nat → Option (Except Error Response × World σ)
  | _, w, 0 => inner c request w
  | first, w, i + 1 =>
    match inner c request w with
    | none => none
    | some (_, w) =>
      tape (first + 1) (w.after (backoff.delay first (random first)).nanos) i

/-- Where a tape is not played any further: at the last attempt, or at an outcome that does not
pass. -/
def Stops (left first : Nat) (w : World σ) (i : Nat) : Prop :=
  i = left ∨ ∃ outcome after,
    tape inner backoff random c request first w i = some (outcome, after) ∧ ¬ Passing outcome

/-- The context does not end while the tape is played. -/
def Lasts (first : Nat) (w : World σ) : Prop :=
  ∀ i outcome after, tape inner backoff random c request first w i = some (outcome, after) →
    after.time.ending? c = none

end

variable {inner : Executor σ} {backoff : Backoff} {random : Nat → Nat} {c : Context}
  {request : Request}

theorem tape_succ {w v : World σ} {outcome : Except Error Response}
    (h : inner c request w = some (outcome, v)) (first i : Nat) :
    tape inner backoff random c request first w (i + 1) =
      tape inner backoff random c request (first + 1)
        (v.after (backoff.delay first (random first)).nanos) i := by
  simp [tape, h]

theorem retryFrom_eq_tape {left first : Nat} {w : World σ}
    (lasts : Lasts inner backoff random c request first w) {i : Nat}
    (least : IsLeast {i | Stops inner backoff random c request left first w i} i) :
    retryFrom inner backoff random c request left first w =
      tape inner backoff random c request first w i := by
  induction left generalizing first w i with
  | zero =>
    have : i ≤ 0 := least.2 (Or.inl rfl)
    obtain rfl : i = 0 := by omega
    rfl
  | succ left ih =>
    cases h : inner c request w with
    | none => cases i <;> simp [retryFrom, tape, h]
    | some answered =>
      obtain ⟨outcome, v⟩ := answered
      have first_outcome : tape inner backoff random c request first w 0 = some (outcome, v) := h
      rw [retryFrom_succ h]
      by_cases passes : Passing outcome
      · have later : i ≠ 0 := by
          rintro rfl
          rcases least.1 with h0 | ⟨o, v', h0, final⟩
          · omega
          · rw [first_outcome] at h0
            cases h0
            exact final passes
        obtain ⟨j, rfl⟩ := Nat.exists_eq_succ_of_ne_zero later
        rw [if_pos ((shouldRetry_iff outcome).mpr passes),
          World.pause_lasting (lasts 0 _ _ first_outcome)]
        simp only
        rw [Nat.succ_eq_add_one, tape_succ h]
        refine ih (fun n o v' hn => lasts (n + 1) o v' (by rwa [tape_succ h])) ⟨?_, ?_⟩
        · exact least.1.imp (by omega) (by rw [Nat.succ_eq_add_one, tape_succ h]; exact id)
        · intro n hn
          have : Nat.succ j ≤ n + 1 := least.2 (hn.imp (by omega) (by rw [tape_succ h]; exact id))
          omega
      · have : i ≤ 0 := least.2 (Or.inr ⟨outcome, v, first_outcome, passes⟩)
        obtain rfl : i = 0 := by omega
        rw [if_neg fun h => passes ((shouldRetry_iff outcome).mp h), first_outcome]

/-! ## Watching -/

end Executor

/-- One attempt at a request. -/
structure Attempt where
  request : Request
  /-- The instant at which the executor was asked. -/
  asked : Nat
  outcome : Except Error Response
  /-- The instant at which it answered. -/
  answered : Nat

/-- What an executor acts on, and the attempts that it has made, in order. -/
structure Watched (σ : Type) where
  state : σ
  attempts : List Attempt

/-- The world as seen by someone who has watched some attempts. -/
def World.watched (w : World σ) (attempts : List Attempt) : World (Watched σ) :=
  ⟨w.time, ⟨w.state, attempts⟩⟩

/-- The world without what was watched. -/
def World.unwatched (w : World (Watched σ)) : World σ := ⟨w.time, w.state.state⟩

@[simp] theorem World.unwatched_watched (w : World σ) (attempts : List Attempt) :
    (w.watched attempts).unwatched = w := rfl

namespace Executor

/-- The same executor, with a list kept of the attempts it makes. -/
def watched (inner : Executor σ) : Executor (Watched σ) := fun c request w =>
  (inner c request w.unwatched).map fun (outcome, after) =>
    (outcome, after.watched
      (w.state.attempts ++ [⟨request, w.time.now, outcome, after.time.now⟩]))

section

variable (inner : Executor σ) (backoff : Backoff) (random : Nat → Nat) (c : Context)
  (request : Request)

/-- The attempts of a tape up to one of its outcomes. -/
def attempts : (first : Nat) → World σ → Nat → List Attempt
  | first, w, i =>
    match inner c request w with
    | none => []
    | some (outcome, v) =>
      let attempt : Attempt := ⟨request, w.time.now, outcome, v.time.now⟩
      match i with
      | 0 => [attempt]
      | i + 1 =>
        attempt :: attempts (first + 1) (v.after (backoff.delay first (random first)).nanos) i

end

variable {inner : Executor σ} {backoff : Backoff} {random : Nat → Nat} {c : Context}
  {request : Request}

theorem attempts_succ {w v : World σ} {outcome : Except Error Response}
    (h : inner c request w = some (outcome, v)) (first i : Nat) :
    attempts inner backoff random c request first w (i + 1) =
      ⟨request, w.time.now, outcome, v.time.now⟩ ::
        attempts inner backoff random c request (first + 1)
          (v.after (backoff.delay first (random first)).nanos) i := by
  rw [attempts, h]

/-- Watching an executor changes nothing of its tape, and shows the attempts. -/
theorem tape_watched (first : Nat) (w : World σ) (seen : List Attempt) (i : Nat) :
    tape inner.watched backoff random c request first (w.watched seen) i =
      (tape inner backoff random c request first w i).map fun (outcome, after) =>
        (outcome, after.watched (seen ++ attempts inner backoff random c request first w i)) := by
  induction i generalizing first w seen with
  | zero =>
    rw [tape, tape, attempts, watched, World.unwatched_watched]
    cases inner c request w <;> rfl
  | succ i ih =>
    cases h : inner c request w with
    | none => simp [tape, watched, h]
    | some answered =>
      obtain ⟨outcome, v⟩ := answered
      have watched_h : inner.watched c request (w.watched seen) = some (outcome, v.watched
          (seen ++ [⟨request, w.time.now, outcome, v.time.now⟩])) := by
        rw [watched, World.unwatched_watched, h]
        rfl
      rw [tape_succ watched_h, tape_succ h, attempts_succ h]
      rw [show ∀ log nanos, (v.watched log).after nanos = (v.after nanos).watched log from
        fun _ _ => rfl, ih, List.append_assoc]
      rfl

/-- The attempts are those of a tape up to one of its outcomes, with the waits of the policy
between them and no others. -/
structure Played (inner : Executor σ) (backoff : Backoff) (random : Nat → Nat) (c : Context)
    (request : Request) (first : Nat) (w : World σ) (i : Nat) (attempts : List Attempt) :
    Prop where
  length : attempts.length = i + 1
  requests : ∀ a ∈ attempts, a.request = request
  outcomes : ∀ j a, attempts[j]? = some a → ∃ after,
    tape inner backoff random c request first w j = some (a.outcome, after) ∧
      a.answered = after.time.now
  /-- The first attempt is made at once. -/
  start : ∀ a, attempts[0]? = some a → a.asked = w.time.now
  /-- Each later one is made when the wait for it is over. -/
  waits : ∀ j a b, attempts[j]? = some a → attempts[j + 1]? = some b →
    b.asked = a.answered + (backoff.delay (first + j) (random (first + j))).nanos

theorem attempts_played {first i : Nat} {w after : World σ} {last : Except Error Response}
    (h : tape inner backoff random c request first w i = some (last, after)) :
    Played inner backoff random c request first w i
      (attempts inner backoff random c request first w i) := by
  induction i generalizing first w with
  | zero =>
    rw [tape] at h
    rw [attempts, h]
    refine ⟨rfl, ?_, ?_, ?_, ?_⟩
    · simp
    · intro j a ha
      obtain ⟨rfl, rfl⟩ : j = 0 ∧ _ = a := by simpa [List.getElem?_singleton] using ha
      exact ⟨after, h, rfl⟩
    · intro a ha
      cases ha
      rfl
    · intro j a b _ hb
      simp at hb
  | succ i ih =>
    cases asked : inner c request w with
    | none => simp [tape, asked] at h
    | some answered =>
      obtain ⟨outcome, v⟩ := answered
      rw [tape_succ asked] at h
      have rest := ih h
      rw [attempts_succ asked]
      refine ⟨?_, ?_, ?_, ?_, ?_⟩
      · rw [List.length_cons, rest.length]
      · intro a ha
        rcases List.mem_cons.mp ha with rfl | ha
        · rfl
        · exact rest.requests a ha
      · intro j a ha
        cases j with
        | zero =>
          cases ha
          exact ⟨v, asked, rfl⟩
        | succ j =>
          rw [tape_succ asked]
          exact rest.outcomes j a ha
      · intro a ha
        cases ha
        rfl
      · intro j a b ha hb
        cases j with
        | zero =>
          cases ha
          exact rest.start b hb
        | succ j =>
          rw [rest.waits j a b ha hb, Nat.add_right_comm first 1 j, Nat.add_assoc first j 1]

/-! ## Retrying -/

theorem watched_stops_iff {left first : Nat} {w : World σ} {seen : List Attempt} {i : Nat} :
    Stops inner.watched backoff random c request left first (w.watched seen) i ↔
      Stops inner backoff random c request left first w i := by
  unfold Stops
  rw [tape_watched]
  cases tape inner backoff random c request first w i with
  | none => simp
  | some played =>
    obtain ⟨outcome, after⟩ := played
    simp

theorem watched_lasts {first : Nat} {w : World σ} {seen : List Attempt}
    (lasts : Lasts inner backoff random c request first w) :
    Lasts inner.watched backoff random c request first (w.watched seen) := by
  intro i outcome after h
  rw [tape_watched] at h
  obtain ⟨⟨outcome, v⟩, found, h⟩ := Option.map_eq_some_iff.mp h
  cases h
  exact lasts i outcome v found

theorem retrying_eq_retryFrom {request : Request}
    (buffered : ∀ bytes, request.body ≠ some (.stream bytes)) (inner : Executor σ)
    (policy : RetryPolicy) (random : Nat → Nat) (c : Context) (w : World σ) :
    inner.retrying policy random c request w =
      inner.retryFrom policy.backoff random c request policy.count 0 w := by
  unfold retrying
  cases kept : request.replay? with
  | some parts => simp only [Request.replay?_eq_some kept]
  | none =>
    unfold Request.replay? at kept
    split at kept
    · cases kept
    · cases kept
    · rename_i bytes streamed
      exact absurd streamed (buffered bytes)

/-- A request that is not a stream is attempted up to the first outcome that does not pass, or as
often as the policy allows. The last outcome is returned as it is, no outcome after it is asked
for, and the only waits are those of the policy between two attempts. -/
theorem retrying_tape (inner : Executor σ) (policy : RetryPolicy) (random : Nat → Nat)
    (c : Context) (request : Request) (w : World σ)
    (buffered : ∀ bytes, request.body ≠ some (.stream bytes))
    (lasts : Lasts inner policy.backoff random c request 0 w) :
    ∃ i, IsLeast {i | Stops inner policy.backoff random c request policy.count 0 w i} i ∧
      inner.retrying policy random c request w =
        tape inner policy.backoff random c request 0 w i ∧
      ∀ outcome after,
        tape inner policy.backoff random c request 0 w i = some (outcome, after) →
        ∃ attempts, Played inner policy.backoff random c request 0 w i attempts ∧
          inner.watched.retrying policy random c request (w.watched []) =
            some (outcome, after.watched attempts) := by
  classical
  have stops : ∃ i, Stops inner policy.backoff random c request policy.count 0 w i :=
    ⟨policy.count, Or.inl rfl⟩
  have least : IsLeast {i | Stops inner policy.backoff random c request policy.count 0 w i}
      (Nat.find stops) := ⟨Nat.find_spec stops, fun _ h => Nat.find_min' stops h⟩
  refine ⟨Nat.find stops, least, ?_, ?_⟩
  · rw [retrying_eq_retryFrom buffered, retryFrom_eq_tape lasts least]
  · intro outcome after h
    refine ⟨_, attempts_played h, ?_⟩
    have watched_least : IsLeast {i | Stops inner.watched policy.backoff random c request
        policy.count 0 (w.watched []) i} (Nat.find stops) := by
      simpa only [watched_stops_iff] using least
    rw [retrying_eq_retryFrom buffered, retryFrom_eq_tape (watched_lasts lasts) watched_least,
      tape_watched, h]
    rfl

/-- A context lasts if it lasts now and the executor cancels nothing. -/
theorem lasts_of_keeps
    (keeps : ∀ w outcome after, inner c request w = some (outcome, after) →
      after.time.cancellations = w.time.cancellations)
    {w : World σ} (lasts : w.time.ending? c = none) (first : Nat) :
    Lasts inner backoff random c request first w := by
  intro i outcome after h
  have kept : ∀ {t t' : Timeline}, t'.cancellations = t.cancellations →
      t'.ending? c = t.ending? c := by
    intro t t' same
    simp only [Timeline.ending?, Timeline.cancelInstants, same]
  induction i generalizing first w with
  | zero => rw [kept (keeps w outcome after h), lasts]
  | succ i ih =>
    cases asked : inner c request w with
    | none => simp [tape, asked] at h
    | some answered =>
      obtain ⟨o, v⟩ := answered
      rw [tape_succ asked] at h
      refine ih ?_ _ h
      rw [World.ending?_after, kept (keeps w o v asked), lasts]

/-- An executor that fails twice, first with an answer and then without one. -/
def flaky : Executor Nat := fun _ _ w =>
  let outcome : Except Error Response := match w.state with
    | 0 => .ok ⟨503, .empty, .complete⟩
    | 1 => .error (.transport none)
    | _ => .ok ⟨200, .empty, .complete⟩
  some (outcome, ⟨w.time, w.state + 1⟩)

theorem retrying_tape_flaky :
    ∃ attempts after, attempts.length = 3 ∧ after.state = 3 ∧
      flaky.watched.retrying ⟨.standard, 4⟩ id ⟨⟨[1]⟩, none⟩
          { method := .get, url := ⟨[], none, .plain [], none, none⟩, headers := [] }
          ⟨.start, ⟨0, []⟩⟩ =
        some (.ok ⟨200, .empty, .complete⟩, World.watched after attempts) := by
  obtain ⟨i, least, -, played⟩ := retrying_tape flaky ⟨.standard, 4⟩ id ⟨⟨[1]⟩, none⟩
    { method := .get, url := ⟨[], none, .plain [], none, none⟩, headers := [] } ⟨.start, 0⟩
    (by simp) (lasts_of_keeps (by rintro w o v h; cases h; rfl) rfl 0)
  have passes : Passing (.ok ⟨503, .empty, .complete⟩) := by simp [Passing]
  have passes' : Passing (.error (.transport none)) := by simp [Passing, Error.kind]
  have final : ¬ Passing (.ok ⟨200, .empty, .complete⟩) := by simp [Passing]
  have : i = 2 := by
    refine least.unique ⟨Or.inr ⟨_, _, rfl, final⟩, ?_⟩
    rintro (_ | _ | n) (h | ⟨o, v, h, stops⟩)
    · cases h
    · cases h
      exact absurd passes stops
    · cases h
    · cases h
      exact absurd passes' stops
    · omega
    · omega
  subst this
  obtain ⟨attempts, these, watched⟩ := played _ _ rfl
  exact ⟨attempts, _, these.length, rfl, watched⟩

end Executor

end ExplorerClient
