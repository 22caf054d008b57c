import ExplorerClient.Proofs.Course
import ExplorerClient.Proofs.Retrying

/-!
# What is sent again

Every attempt at a request asks for the request itself, whatever came of the attempts before it. A
request whose body is a stream is refused before the first attempt, and clients make none, so no
operation meets that refusal.

Results:
* `retryFrom_watched`: watching what is retried shows the attempts that are made.
* `retryFrom_attempts`: what the attempts at a request ask for.
* `retryFrom_congr`: what an executor does with other requests does not matter.
* `retryFrom_error`: where the error of a retried request comes from.
* `Plan.course_blames`: an error about a body is one that the executor of the client reported.
* `attempts_replay`: all of this for retried requests and for operations.
-/

namespace ExplorerClient

variable {ε σ α β : Type}

/-! ## Attempts at a request -/

/-- Attempts at a request that came to an outcome: a response is that of the last. -/
structure AttemptsAt (request : Request) (outcome : Except Error Response)
    (block : List Attempt) : Prop where
  there : block ≠ []
  requests : ∀ t ∈ block, t.request = request
  final : ∀ response, outcome = .ok response → ∃ front last, block = front ++ [last] ∧
    last.outcome = .ok response

theorem AttemptsAt.single {request : Request} {outcome : Except Error Response} {t : Attempt}
    (asked : t.request = request)
    (final : ∀ response, outcome = .ok response → t.outcome = .ok response) :
    AttemptsAt request outcome [t] where
  there := List.cons_ne_nil _ _
  requests := by simpa using asked
  final response same := ⟨[], t, rfl, final response same⟩

theorem AttemptsAt.cons {request : Request} {outcome : Except Error Response} {t : Attempt}
    {block : List Attempt} (asked : t.request = request) (h : AttemptsAt request outcome block) :
    AttemptsAt request outcome (t :: block) where
  there := List.cons_ne_nil _ _
  requests := List.forall_mem_cons.mpr ⟨asked, h.requests⟩
  final response same := by
    obtain ⟨front, last, rfl, final⟩ := h.final response same
    exact ⟨t :: front, last, rfl, final⟩

namespace Executor

theorem watched_answered {inner : Executor σ} {c : Context} {request : Request} {w v : World σ}
    {outcome : Except Error Response} (h : inner c request w = some (outcome, v))
    (seen : List Attempt) :
    inner.watched c request (w.watched seen) = some (outcome, v.watched
      (seen ++ [⟨request, w.time.now, outcome, v.time.now⟩])) := by
  rw [watched, World.unwatched_watched, h]
  rfl

theorem watched_silent {inner : Executor σ} {c : Context} {request : Request} {w : World σ}
    (h : inner c request w = none) (seen : List Attempt) :
    inner.watched c request (w.watched seen) = none := by
  rw [watched, World.unwatched_watched, h]
  rfl

theorem pause_watched (c : Context) (w : World σ) (nanos : Nat) (seen : List Attempt) :
    (w.watched seen).pause c nanos =
      ((w.pause c nanos).1, (w.pause c nanos).2.watched seen) := rfl

section

variable (inner : Executor σ) (backoff : Backoff) (random : Nat → Nat) (c : Context)
  (request : Request)

/-- The attempts that retries make, up to one that is never answered. -/
def made : (left attempt : Nat) → World σ → List Attempt
  | left, attempt, w =>
    match inner c request w with
    | none => []
    | some (outcome, v) =>
      ⟨request, w.time.now, outcome, v.time.now⟩ ::
        match left with
        | 0 => []
        | left + 1 =>
          if shouldRetry outcome then
            match v.pause c (backoff.delay attempt (random attempt)).nanos with
            | (some _, _) => []
            | (none, u) => made left (attempt + 1) u
          else []

end

variable {inner : Executor σ} {backoff : Backoff} {random : Nat → Nat} {c : Context}
  {request : Request}

/-- Watching what is retried changes nothing of what it comes to, and shows the attempts. -/
theorem retryFrom_watched (left attempt : Nat) (w : World σ) (seen : List Attempt) :
    inner.watched.retryFrom backoff random c request left attempt (w.watched seen) =
      (inner.retryFrom backoff random c request left attempt w).map fun (outcome, after) =>
        (outcome, after.watched
          (seen ++ inner.made backoff random c request left attempt w)) := by
  -- by the attempts that are left; those that have been seen grow from one to the next
  induction left generalizing attempt w seen with
  | zero =>
    cases asked : inner c request w with
    | none => simp [retryFrom, watched_silent asked, asked]
    | some answered => simp [retryFrom, watched_answered asked, asked, made]
  | succ left ih =>
    cases asked : inner c request w with
    | none => simp [retryFrom, watched_silent asked, asked]
    | some answered =>
      obtain ⟨outcome, v⟩ := answered
      rw [retryFrom_succ (watched_answered asked seen), retryFrom_succ asked, pause_watched, made,
        asked]
      by_cases again : shouldRetry outcome = true
      · cases waited : v.pause c (backoff.delay attempt (random attempt)).nanos with
        | mk ended u => cases ended <;> simp [again, waited, ih]
      · simp [again]

theorem made_attempts {left attempt : Nat} {w v : World σ} {outcome : Except Error Response}
    (h : inner.retryFrom backoff random c request left attempt w = some (outcome, v)) :
    AttemptsAt request outcome (inner.made backoff random c request left attempt w) := by
  induction left generalizing attempt w with
  | zero =>
    have answered : inner c request w = some (outcome, v) := h
    rw [made, answered]
    exact .single rfl fun _ same => same
  | succ left ih =>
    obtain ⟨o, u, answered, -⟩ := retryFrom_cases h
    rw [retryFrom_succ answered] at h
    rw [made, answered]
    by_cases again : shouldRetry o = true
    · simp only [again, if_true] at h ⊢
      cases waited : u.pause c (backoff.delay attempt (random attempt)).nanos with
      | mk ended u' =>
        simp only [waited] at h ⊢
        cases ended with
        | some e =>
          cases h
          exact .single rfl fun _ same => by cases same
        | none => exact (ih h).cons rfl
    · simp only [again, Bool.false_eq_true, if_false] at h ⊢
      cases h
      exact .single rfl fun _ same => same

theorem retryFrom_attempts {left attempt : Nat} {w v : World (Watched σ)}
    {outcome : Except Error Response}
    (h : inner.watched.retryFrom backoff random c request left attempt w = some (outcome, v)) :
    ∃ new, v.state.attempts = w.state.attempts ++ new ∧ ∀ a ∈ new, a.request = request := by
  rw [show w = w.unwatched.watched w.state.attempts from rfl, retryFrom_watched] at h
  obtain ⟨⟨o, after⟩, came, h⟩ := Option.map_eq_some_iff.mp h
  cases h
  exact ⟨_, rfl, (made_attempts came).requests⟩

theorem retryFrom_congr {f g : Executor σ} (same : ∀ w, f c request w = g c request w)
    (left attempt : Nat) (w : World σ) :
    f.retryFrom backoff random c request left attempt w =
      g.retryFrom backoff random c request left attempt w := by
  induction left generalizing attempt w with
  | zero => exact same w
  | succ left ih => simp only [retryFrom, same, ih]

theorem retryFrom_error {inner : Executor σ} {left attempt : Nat} {w v : World σ} {e : Error}
    (h : inner.retryFrom backoff random c request left attempt w = some (.error e, v)) :
    e.isContext = true ∨ ∃ before after, inner c request before = some (.error e, after) := by
  induction left generalizing attempt w with
  | zero => exact Or.inr ⟨w, v, h⟩
  | succ left ih =>
    obtain ⟨o, u, answered, ending⟩ := retryFrom_cases h
    rcases ending with ⟨-, rfl, rfl⟩ | ⟨ended, cut, same⟩ | ⟨u', -, later⟩
    · exact Or.inr ⟨w, v, answered⟩
    · cases same
      exact Or.inl (World.pause_isContext cut)
    · exact ih later

end Executor

/-! ## Errors about a body -/

theorem Reply.interpret_requestBody {r : Reply α} {answer : Except Error ByteArray} {e : Error}
    (h : r.interpret answer = .error e) (body : e.kind = .requestBody) : answer = .error e := by
  cases r with
  | resource resource decode =>
    obtain h | ⟨bytes, -, h⟩ := error_of_bind h
    · cases answer with
      | ok bytes => cases h
      | error e' =>
        obtain rfl : onMissing resource e' = e := Except.error.inj h
        unfold onMissing at body ⊢
        split at body
        · cases body
        · rfl
    · obtain h | ⟨bytes, -, h⟩ := error_of_bind h
      · unfold present at h
        split at h <;> cases h
        cases body
      · cases read : decode bytes with
        | ok a =>
          rw [read] at h
          cases h
        | error fault =>
          rw [read] at h
          cases h
          cases body
  | broadcast understood =>
    cases answer with
    | ok bytes => cases h
    | error e' =>
      obtain rfl : onRejected e' = e := Except.error.inj h
      unfold onRejected at body ⊢
      split at body
      · cases body
      · rfl
  | plain understood =>
    cases answer with
    | ok bytes => cases h
    | error e' =>
      cases h
      rfl

/-- An error about a body that cannot be sent again is one that the executor of the client
reported. -/
def Course.Blames (c : Course ε σ α) : Prop :=
  ∀ e, c.answer = some (.error e) → e.kind = .requestBody →
    ∃ a ∈ c.asked, a.reply = some (.error e)

theorem Query.course_blames (w : Wiring ε σ) (ctx : Context) (q : Query) (live : Live ε σ) :
    (q.course w ctx live).Blames := by
  intro e answered body
  cases q.fate w ctx live with
  | refused e' handed h =>
    rw [h] at answered
    cases answered
    exact absurd body (handed_refusal handed).kind_ne
  | unanswered url request _ _ h | reading url request response world _ _ h =>
    rw [h] at answered
    cases answered
  | failed url request e' world _ _ h =>
    rw [h] at answered ⊢
    have reported := Reply.interpret_requestBody (Option.some.inj answered) body
    cases reported
    exact ⟨_, List.mem_singleton_self _, rfl⟩
  | read url request response world bytes time _ _ read h =>
    rw [h] at answered
    have reported := Reply.interpret_requestBody (Option.some.inj answered) body
    cases bytes with
    | error e' =>
      cases reported
      rcases Response.readBody_error read with ended | rfl
      · cases e <;> simp [Error.isContext, Error.kind] at ended body
      · cases body
    | ok bytes =>
      have failed : response.outcome bytes = .error e := reported
      unfold Response.outcome at failed
      split at failed <;> cases failed
      cases body

theorem Course.Blames.andThen {first : Course ε σ α} {next : α → Live ε σ → Course ε σ β}
    (hfirst : first.Blames) (hnext : ∀ value, (next value first.live).Blames) :
    (first.andThen next).Blames := by
  intro e failed body
  unfold Course.andThen at failed ⊢
  split at failed
  · cases failed
  · rename_i e' first_failed
    cases failed
    exact hfirst _ first_failed body
  · rename_i value found
    obtain ⟨a, ha, reported⟩ := hnext value e failed body
    exact ⟨a, List.mem_append_right _ ha, reported⟩

namespace Plan

/-- A plan that fails by itself, if at all, because something is missing. -/
def Bare : {α : Type} → Plan α → Prop
  | _, .done answer => ∀ e, answer = .error e → e = .missingRequest
  | _, .ask _ => True
  | _, .andThen first next => first.Bare ∧ ∀ a, (next a).Bare

theorem course_blames (w : Wiring ε σ) (ctx : Context) {p : Plan α} (bare : p.Bare)
    (live : Live ε σ) : (p.course w ctx live).Blames := by
  induction p generalizing live with
  | done answer =>
    intro e failed body
    cases bare e (Option.some.inj failed)
    cases body
  | ask query => exact query.course_blames w ctx live
  | andThen first next first_ih next_ih =>
    exact (first_ih bare.1 live).andThen fun value => next_ih value (bare.2 value) _

theorem bare_ask (q : Query) : (Plan.ask q).Bare := trivial

theorem bare_map {p : Plan α} (bare : p.Bare) (f : α → β) : (p.map f).Bare :=
  ⟨bare, by intro a e h; cases h⟩

theorem bare_each {p : α → Plan (List β)} (bare : ∀ a, (p a).Bare) (xs : List α) :
    (each p xs).Bare := by
  induction xs with
  | nil =>
    intro e h
    cases h
  | cons x xs ih => exact ⟨bare x, fun found => bare_map ih _⟩

theorem bare_inPieces {size : Nat} {p : List α → Plan (List β)} (bare : ∀ piece, (p piece).Bare)
    (xs : List α) : (inPieces size p xs).Bare := by
  unfold inPieces
  split
  · intro e h
    cases h
    rfl
  · exact bare_each bare _

end Plan

theorem Operation.plan_bare (op : Operation) : op.plan.Bare := by
  cases op with
  | query q => exact Plan.bare_map (Plan.bare_ask q) _
  | balance a | history a =>
    refine Plan.bare_map ?_ _
    exact ⟨Plan.bare_ask _, fun _ => Plan.bare_map (Plan.bare_ask _) _⟩
  | allBalances as | allUnspents as | allDetails ids =>
    exact Plan.bare_map (Plan.bare_inPieces (fun _ => Plan.bare_ask _) _) _

/-! ## Retried requests and operations -/

theorem Operation.asked_buffered (w : Wiring ε σ) (ctx : Context) (op : Operation)
    (live : Live ε σ) {a : Asked} (ha : a ∈ (op.course w ctx live).asked) :
    ∀ bytes, a.request.body ≠ some (.stream bytes) :=
  Client.request_buffered (Query.handed_ok (op.plan.asked_handed w ctx live a ha)).2

/-- A call that fails with an error about a body reports what the executor below the retries said,
as the check of the retries lets each of its requests through. -/
theorem Operation.requestBody_reported {w : Wiring ε σ} {ctx : Context} {op : Operation}
    {live after : Live ε σ} {inner : Executor σ} {policy : RetryPolicy} {random : Nat → Nat}
    {e : Error} (retried : w.executor live.client.slot = inner.retrying policy random)
    (failed : op.call w ctx live = some (.error e, after)) (body : e.kind = .requestBody) :
    ∃ a ∈ (op.course w ctx live).asked, ∃ before after,
      inner ctx a.request before = some (.error e, after) := by
  rw [← op.course_ended w ctx live] at failed
  obtain ⟨answer, answered, h⟩ := Option.map_eq_some_iff.mp failed
  cases h
  obtain ⟨a, ha, reported⟩ := Plan.course_blames w ctx op.plan_bare live e answered body
  obtain ⟨before, h⟩ := op.plan.asked_reply w ctx live a ha
  rw [reported, retried, Executor.retrying_eq_retryFrom (op.asked_buffered w ctx live ha)] at h
  obtain ⟨⟨outcome, v⟩, h, same⟩ := Option.map_eq_some_iff.mp h
  cases same
  rcases Executor.retryFrom_error h with ended | found
  · cases e <;> simp [Error.isContext, Error.kind] at ended body
  · exact ⟨a, ha, found⟩

/-- Every attempt asks for the request as it was given, and what an executor does with any other
request makes no difference. A stream is refused before anything is asked. Operations hand over no
stream, so none of them meets that refusal. -/
theorem attempts_replay :
    (∀ {σ : Type} (inner : Executor σ) (policy : RetryPolicy) (random : Nat → Nat) (c : Context)
      (request : Request) (w v : World (Watched σ)) (outcome : Except Error Response),
      inner.watched.retrying policy random c request w = some (outcome, v) →
      ∃ new, v.state.attempts = w.state.attempts ++ new ∧ ∀ a ∈ new, a.request = request) ∧
    (∀ {σ : Type} (f g : Executor σ) (policy : RetryPolicy) (random : Nat → Nat) (c : Context)
      (request : Request), (∀ w, f c request w = g c request w) →
      ∀ w, f.retrying policy random c request w = g.retrying policy random c request w) ∧
    (∀ {σ : Type} (inner : Executor σ) (policy : RetryPolicy) (random : Nat → Nat) (c : Context)
      (request : Request) (bytes : ByteArray) (w : World σ),
      request.body = some (.stream bytes) →
      inner.retrying policy random c request w =
        some (.error (.requestBody "streaming bodies cannot be buffered"), w)) ∧
    (∀ {ε σ : Type} (w : Wiring ε σ) (ctx : Context) (op : Operation) (live : Live ε σ),
      ∀ a ∈ (op.course w ctx live).asked,
        (∀ bytes, a.request.body ≠ some (.stream bytes)) ∧
        ∀ (inner : Executor σ) (policy : RetryPolicy) (random : Nat → Nat) (v : World σ),
          inner.retrying policy random ctx a.request v =
            inner.retryFrom policy.backoff random ctx a.request policy.count 0 v) ∧
    ∀ {ε σ : Type} (w : Wiring ε σ) (ctx : Context) (op : Operation) (live after : Live ε σ)
      (inner : Executor σ) (policy : RetryPolicy) (random : Nat → Nat) (e : Error),
      w.executor live.client.slot = inner.retrying policy random →
      op.call w ctx live = some (.error e, after) → e.kind = .requestBody →
      ∃ a ∈ (op.course w ctx live).asked, ∃ before after,
        inner ctx a.request before = some (.error e, after) := by
  refine ⟨?_, ?_, ?_, ?_, ?_⟩
  · intro σ inner policy random c request w v outcome h
    cases kept : request.replay? with
    | none =>
      simp only [Executor.retrying, kept] at h
      cases h
      exact ⟨[], by simp, by simp⟩
    | some parts =>
      simp only [Executor.retrying, kept, Request.replay?_eq_some kept] at h
      exact Executor.retryFrom_attempts h
  · intro σ f g policy random c request same w
    unfold Executor.retrying
    cases kept : request.replay? with
    | none => rfl
    | some parts =>
      simp only [Request.replay?_eq_some kept]
      exact Executor.retryFrom_congr same _ _ w
  · intro σ inner policy random c request bytes w streamed
    exact Executor.retry_stream streamed inner policy random c w
  · intro ε σ w ctx op live a ha
    have buffered := op.asked_buffered w ctx live ha
    exact ⟨buffered, fun inner policy random v =>
      Executor.retrying_eq_retryFrom buffered inner policy random ctx v⟩
  · intro ε σ w ctx op live after inner policy random e retried failed body
    exact Operation.requestBody_reported retried failed body

end ExplorerClient
