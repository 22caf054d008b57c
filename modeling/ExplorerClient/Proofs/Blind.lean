import ExplorerClient.Proofs.Matched
import ExplorerClient.Proofs.Rekeyed

/-!
# Executors that pay no attention to keys

An executor may do whatever it likes with a request, and keep what it likes of it. It is blind to
keys if their values tell nothing in its answers: requests that are the same apart from a key are
answered alike, and whatever was kept of them stays apart in nothing but the key.

With blind executors, calls of clients that differ in keys take the same course. Requests are seen
when they are given to servers, so that they are seen even if they are never answered.

Results:
* `Wiring.executor_tries`: what is given to servers are the attempts that are seen by watching.
* `Executor.Blind.retrying`, `Wiring.Blind.executor`: retrying keeps an executor blind.
* `Plan.course_alike`, `Plan.tries_alike`: the courses of calls.
* `Wiring.rehearsal_blind`: scripted executors are blind.
-/

namespace ExplorerClient

variable {ε σ α β : Type}

/-! ## Executors -/

/-- The same time, and states that belong together. -/
structure World.Alike (alike : σ → σ → Prop) (u v : World σ) : Prop where
  time : u.time = v.time
  state : alike u.state v.state

/-- The same answer, and worlds that belong together. -/
def AnswersAlike (alike : σ → σ → Prop) (a b : Except Error Response × World σ) : Prop :=
  a.1 = b.1 ∧ a.2.Alike alike b.2

/-- The executor answers alike to requests that only the value of a key tells apart. It may keep the
key, as long as the states that it leaves belong together. -/
def Executor.Blind (x : Executor σ) (alike : σ → σ → Prop) : Prop :=
  ∀ ctx r r' u v, r.concealed = r'.concealed → u.Alike alike v →
    Option.Rel (AnswersAlike alike) (x ctx r u) (x ctx r' v)

/-- No executor lets the value of a key influence its answers. -/
structure Wiring.Blind (w : Wiring ε σ) (alike : σ → σ → Prop) : Prop where
  supplied : ∀ executor, (w.supplied executor).Blind alike
  managed : ∀ config, (w.managed config).Blind alike

/-- A request that was given to an executor. -/
structure Tried where
  instant : Nat
  request : Request

/-- The same without the value of a key. -/
def Tried.concealed (t : Tried) : Tried := { t with request := t.request.concealed }

/-- Whether a request can be sent again has nothing to do with its key. -/
theorem Request.replay?_alike {r r' : Request} (same : r.concealed = r'.concealed) :
    r.replay? = none ∧ r'.replay? = none ∨
      ∃ parts parts', r.replay? = some parts ∧ r'.replay? = some parts' := by
  have body : r'.body = r.body := by
    change r'.concealed.body = r.concealed.body
    rw [same]
  unfold replay?
  rw [body]
  cases r.body with
  | none => exact .inr ⟨_, _, rfl, rfl⟩
  | some sent =>
    cases sent with
    | buffered bytes => exact .inr ⟨_, _, rfl, rfl⟩
    | stream bytes => exact .inl ⟨rfl, rfl⟩

namespace Executor

variable {inner : Executor σ} {backoff : Backoff} {random : Nat → Nat} {ctx : Context}
  {alike : σ → σ → Prop}

/-- What retries give to the executor below, whether or not it answers. -/
def tries (inner : Executor σ) (backoff : Backoff) (random : Nat → Nat) (ctx : Context)
    (request : Request) : (left attempt : Nat) → World σ → List Tried
  | 0, _, w => [⟨w.time.now, request⟩]
  | left + 1, attempt, w =>
    ⟨w.time.now, request⟩ ::
      match inner ctx request w with
      | none => []
      | some (outcome, w) =>
        if shouldRetry outcome then
          match w.pause ctx (backoff.delay attempt (random attempt)).nanos with
          | (some _, _) => []
          | (none, w) => tries inner backoff random ctx request left (attempt + 1) w
        else []

/-- If retries come to an outcome, what they give to the executor below are the attempts that are
made. -/
theorem made_tries {request : Request} {left attempt : Nat} {w v : World σ}
    {outcome : Except Error Response}
    (h : inner.retryFrom backoff random ctx request left attempt w = some (outcome, v)) :
    (inner.made backoff random ctx request left attempt w).map
        (fun a => Tried.mk a.asked a.request) =
      inner.tries backoff random ctx request left attempt w := by
  induction left generalizing attempt w with
  | zero =>
    have answered : inner ctx request w = some (outcome, v) := h
    rw [made, answered]
    rfl
  | succ left ih =>
    obtain ⟨o, u, answered, -⟩ := retryFrom_cases h
    rw [retryFrom_succ answered] at h
    rw [made, tries, answered]
    by_cases again : shouldRetry o = true
    · cases waited : u.pause ctx (backoff.delay attempt (random attempt)).nanos with
      | mk ended u' =>
        simp only [again, if_true, waited] at h ⊢
        cases ended with
        | some e => rfl
        | none => exact congrArg (List.cons _) (ih h)
    · simp [again]

/-- If retries come to an outcome, what they give to the executor below are the attempts that are
seen by watching it. -/
theorem retryFrom_tries {request : Request} {left attempt : Nat} {w v : World σ}
    {outcome : Except Error Response}
    (h : inner.retryFrom backoff random ctx request left attempt w = some (outcome, v)) :
    ∃ attempts, inner.watched.retryFrom backoff random ctx request left attempt (w.watched []) =
        some (outcome, v.watched attempts) ∧
      attempts.map (fun a => Tried.mk a.asked a.request) =
        inner.tries backoff random ctx request left attempt w :=
  ⟨_, by rw [retryFrom_watched, h]; rfl, made_tries h⟩

theorem pause_alike {u v : World σ} (worlds : u.Alike alike v) (ctx : Context) (nanos : Nat) :
    ∃ ended u' v', u.pause ctx nanos = (ended, u') ∧ v.pause ctx nanos = (ended, v') ∧
      u'.Alike alike v' := by
  obtain ⟨time, s⟩ := u
  obtain ⟨_, s'⟩ := v
  obtain ⟨rfl, state⟩ := worlds
  exact ⟨_, _, _, rfl, rfl, rfl, state⟩

/-- Neither request is ever answered, or both are answered alike. -/
theorem Blind.answers (blind : inner.Blind alike) (ctx : Context) {r r' : Request}
    (same : r.concealed = r'.concealed) {u v : World σ} (worlds : u.Alike alike v) :
    inner ctx r u = none ∧ inner ctx r' v = none ∨
      ∃ outcome u' v', inner ctx r u = some (outcome, u') ∧
        inner ctx r' v = some (outcome, v') ∧ u'.Alike alike v' := by
  have both := blind ctx r r' u v same worlds
  generalize inner ctx r u = x at both
  generalize inner ctx r' v = y at both
  cases both with
  | none => exact .inl ⟨rfl, rfl⟩
  | @some a b h =>
    obtain ⟨outcome, u'⟩ := a
    obtain ⟨_, v'⟩ := b
    obtain ⟨rfl, worlds⟩ := h
    exact .inr ⟨outcome, u', v', rfl, rfl, worlds⟩

theorem Blind.retryFrom (blind : inner.Blind alike) {r r' : Request}
    (same : r.concealed = r'.concealed) (left attempt : Nat) {u v : World σ}
    (worlds : u.Alike alike v) :
    Option.Rel (AnswersAlike alike) (inner.retryFrom backoff random ctx r left attempt u)
      (inner.retryFrom backoff random ctx r' left attempt v) := by
  induction left generalizing attempt u v with
  | zero => exact blind ctx r r' u v same worlds
  | succ left ih =>
    obtain ⟨first, second⟩ | ⟨outcome, u', v', first, second, worlds⟩ :=
      blind.answers ctx same worlds
    · simp only [Executor.retryFrom, first, second]
      exact .none
    · rw [retryFrom_succ first, retryFrom_succ second]
      by_cases again : shouldRetry outcome = true
      · obtain ⟨ended, u'', v'', waited, waited', worlds⟩ :=
          pause_alike worlds ctx (backoff.delay attempt (random attempt)).nanos
        rw [if_pos again, if_pos again, waited, waited']
        cases ended with
        | some e => exact .some ⟨rfl, worlds⟩
        | none => exact ih (attempt + 1) worlds
      · rw [if_neg again, if_neg again]
        exact .some ⟨rfl, worlds⟩

theorem Blind.tries (blind : inner.Blind alike) {r r' : Request}
    (same : r.concealed = r'.concealed) (left attempt : Nat) {u v : World σ}
    (worlds : u.Alike alike v) :
    (inner.tries backoff random ctx r left attempt u).map Tried.concealed =
      (inner.tries backoff random ctx r' left attempt v).map Tried.concealed := by
  induction left generalizing attempt u v with
  | zero => simp only [Executor.tries, List.map_cons, List.map_nil, Tried.concealed, worlds.time, same]
  | succ left ih =>
    simp only [Executor.tries, List.map_cons, Tried.concealed, worlds.time, same]
    refine congrArg (List.cons _) ?_
    obtain ⟨first, second⟩ | ⟨outcome, u', v', first, second, worlds⟩ :=
      blind.answers ctx same worlds
    · rw [first, second]
    · rw [first, second]
      by_cases again : shouldRetry outcome = true
      · obtain ⟨ended, u'', v'', waited, waited', worlds⟩ :=
          pause_alike worlds ctx (backoff.delay attempt (random attempt)).nanos
        simp only [again, if_true, waited, waited']
        cases ended with
        | some e => rfl
        | none => exact ih (attempt + 1) worlds
      · simp only [again, Bool.false_eq_true, if_false]

theorem Blind.retrying (blind : inner.Blind alike) (policy : RetryPolicy) (random : Nat → Nat) :
    (inner.retrying policy random).Blind alike := by
  intro ctx r r' u v same worlds
  unfold Executor.retrying
  obtain ⟨first, second⟩ | ⟨parts, parts', first, second⟩ := Request.replay?_alike same
  · rw [first, second]
    exact .some ⟨rfl, worlds⟩
  · simp only [first, second, Request.replay?_eq_some first, Request.replay?_eq_some second]
    exact blind.retryFrom same _ _ worlds

end Executor

namespace Wiring

variable {w : Wiring ε σ} {alike : σ → σ → Prop}

/-- What the executor of a client gives to servers. What a supplied executor does with a request is
its own matter. -/
def tries (w : Wiring ε σ) (slot : Slot ε) (ctx : Context) (request : Request) (world : World σ) :
    List Tried :=
  match slot with
  | .supplied _ => [⟨world.time.now, request⟩]
  | .managed config =>
    if config.retry.count = 0 then [⟨world.time.now, request⟩]
    else match request.replay? with
      | none => []
      | some parts =>
        (w.managed config).tries config.retry.backoff w.random ctx parts.request
          config.retry.count 0 world

/-- If an executor comes to an outcome, what it gives to servers are the attempts that are seen by
watching it. -/
theorem executor_tries {slot : Slot ε} {ctx : Context} {request : Request} {world after : World σ}
    {outcome : Except Error Response}
    (h : w.executor slot ctx request world = some (outcome, after)) :
    ∃ attempts, w.watched.executor slot ctx request (world.watched []) =
        some (outcome, after.watched attempts) ∧
      attempts.map (fun a => Tried.mk a.asked a.request) = w.tries slot ctx request world := by
  cases slot with
  | supplied executor => exact ⟨_, Executor.watched_answered h [], rfl⟩
  | managed config =>
    rw [Wiring.executor] at h ⊢
    by_cases unlayered : config.retry.count = 0
    · rw [if_pos unlayered] at h ⊢
      rw [tries, if_pos unlayered]
      exact ⟨_, Executor.watched_answered h [], rfl⟩
    · rw [if_neg unlayered] at h ⊢
      rw [tries, if_neg unlayered]
      unfold Executor.retrying at h ⊢
      cases kept : request.replay? with
      | none =>
        simp only [kept] at h
        cases h
        exact ⟨[], rfl, rfl⟩
      | some parts =>
        simp only [kept] at h
        exact Executor.retryFrom_tries h

theorem Blind.executor (blind : w.Blind alike) (slot : Slot ε) :
    (w.executor slot).Blind alike := by
  cases slot with
  | supplied executor => exact blind.supplied executor
  | managed config =>
    rw [Wiring.executor]
    split
    · exact blind.managed config
    · exact (blind.managed config).retrying _ _

theorem Blind.tries (blind : w.Blind alike) (slot : Slot ε) (ctx : Context) {r r' : Request}
    (same : r.concealed = r'.concealed) {u v : World σ} (worlds : u.Alike alike v) :
    (w.tries slot ctx r u).map Tried.concealed = (w.tries slot ctx r' v).map Tried.concealed := by
  have once : [Tried.mk u.time.now r].map Tried.concealed =
      [Tried.mk v.time.now r'].map Tried.concealed := by
    simp only [List.map_cons, List.map_nil, Tried.concealed, worlds.time, same]
  cases slot with
  | supplied executor => exact once
  | managed config =>
    unfold Wiring.tries
    by_cases unlayered : config.retry.count = 0
    · simp only [unlayered, if_true]
      exact once
    · simp only [unlayered, if_false]
      obtain ⟨first, second⟩ | ⟨parts, parts', first, second⟩ := Request.replay?_alike same
      · rw [first, second]
      · simp only [first, second, Request.replay?_eq_some first, Request.replay?_eq_some second]
        exact (blind.managed config).tries same _ _ worlds

end Wiring

/-! ## Calls -/

/-- Clients that only keys tell apart, in worlds that belong together. -/
structure Live.Alike (alike : σ → σ → Prop) (l l' : Live ε σ) : Prop where
  client : l.client.Alike l'.client
  world : l.world.Alike alike l'.world

/-- What was handed over, without the value of a key. -/
def Asked.concealed (a : Asked) : Asked := { a with request := a.request.concealed }

/-- Courses that only keys tell apart. -/
structure Course.Alike (alike : σ → σ → Prop) (c d : Course ε σ α) : Prop where
  asked : c.asked.map Asked.concealed = d.asked.map Asked.concealed
  answer : c.answer = d.answer
  live : c.live.Alike alike d.live

theorem Course.Alike.andThen {alike : σ → σ → Prop} {c d : Course ε σ α}
    {next next' : α → Live ε σ → Course ε σ β} (first : c.Alike alike d)
    (second : ∀ a, c.answer = some (.ok a) → (next a c.live).Alike alike (next' a d.live)) :
    (c.andThen next).Alike alike (d.andThen next') := by
  unfold Course.andThen
  rw [← first.answer]
  split
  · exact ⟨first.asked, rfl, first.live⟩
  · exact ⟨first.asked, rfl, first.live⟩
  · rename_i value found
    have later := second value found
    refine ⟨?_, later.answer, later.live⟩
    simp only [List.map_append, first.asked, later.asked]

theorem Client.Alike.slot {c d : Client ε} (h : c.Alike d) : c.slot = d.slot := by
  obtain ⟨key, -, rfl⟩ := h
  rfl

theorem Client.Alike.withLast {c d : Client ε} (h : c.Alike d) (last : LastRequest) :
    Client.Alike { c with last } { d with last } := by
  obtain ⟨key, stored, rfl⟩ := h
  exact ⟨key, stored, rfl⟩

namespace Query

variable {w : Wiring ε σ} {alike : σ → σ → Prop} {l l' : Live ε σ}

theorem course_alike (blind : w.Blind alike) (ctx : Context) (q : Query)
    (lives : l.Alike alike l') : (q.course w ctx l).Alike alike (q.course w ctx l') := by
  have together := q.handed_alike lives.client
  generalize made : q.handed l.client = x at together
  generalize made' : q.handed l'.client = y at together
  cases together with
  | failed e =>
    rw [course_refused made, course_refused made']
    exact ⟨rfl, rfl, lives⟩
  | @ended a b h =>
    obtain ⟨url, r⟩ := a
    obtain ⟨_, r'⟩ := b
    obtain ⟨rfl, same⟩ := h
    have told (reply : Option (Except Error Response)) :
        [Asked.concealed ⟨q, url, r, reply⟩] = [Asked.concealed ⟨q, url, r', reply⟩] := by
      simp only [Asked.concealed]
      rw [same]
    have answers := (blind.executor l.client.slot).answers ctx same lives.world
    have slots : w.executor l.client.slot ctx r' l'.world =
        w.executor l'.client.slot ctx r' l'.world := by rw [lives.client.slot]
    obtain ⟨first, second⟩ | ⟨outcome, u, v, first, second, worlds⟩ := answers
    · rw [course_unanswered made first, course_unanswered made' (slots ▸ second)]
      exact ⟨told none, rfl, lives⟩
    · rw [slots] at second
      cases outcome with
      | error e =>
        rw [course_failed made first, course_failed made' second]
        exact ⟨told _, rfl, lives.client.withLast _, worlds⟩
      | ok response =>
        cases read : response.readBody ctx u.time with
        | none =>
          have read' : response.readBody ctx v.time = none := by rw [← worlds.time, read]
          rw [course_reading made first read, course_reading made' second read']
          exact ⟨told _, rfl, lives.client, worlds⟩
        | some finished =>
          have read' : response.readBody ctx v.time = some (finished.1, finished.2) := by
            rw [← worlds.time, read]
          rw [course_read made first read, course_read made' second read']
          exact ⟨told _, rfl, lives.client.withLast _, rfl, worlds.state⟩

/-- What a query gives to servers. -/
def tries (w : Wiring ε σ) (ctx : Context) (q : Query) (live : Live ε σ) : List Tried :=
  match q.handed live.client with
  | .error _ => []
  | .ok (_, request) => w.tries live.client.slot ctx request live.world

theorem tries_alike (blind : w.Blind alike) (ctx : Context) (q : Query)
    (lives : l.Alike alike l') :
    (q.tries w ctx l).map Tried.concealed = (q.tries w ctx l').map Tried.concealed := by
  have handed := q.handed_alike lives.client
  unfold tries
  rw [← lives.client.slot]
  generalize q.handed l.client = x at handed
  generalize q.handed l'.client = y at handed
  cases handed with
  | failed e => rfl
  | ended h => exact blind.tries _ ctx h.2 lives.world

end Query

namespace Plan

variable {w : Wiring ε σ} {alike : σ → σ → Prop} {l l' : Live ε σ}

theorem course_alike (blind : w.Blind alike) (ctx : Context) (p : Plan α)
    (lives : l.Alike alike l') : (p.course w ctx l).Alike alike (p.course w ctx l') := by
  induction p generalizing l l' with
  | done answer => exact ⟨rfl, rfl, lives⟩
  | ask query => exact query.course_alike blind ctx lives
  | andThen first next first_ih next_ih =>
    have before := first_ih lives
    exact before.andThen fun a _ => next_ih a before.live

/-- What a plan gives to servers. -/
def tries (w : Wiring ε σ) (ctx : Context) : {α : Type} → Plan α → Live ε σ → List Tried
  | _, .done _, _ => []
  | _, .ask query, live => query.tries w ctx live
  | _, .andThen first next, live =>
    let course := first.course w ctx live
    first.tries w ctx live ++
      match course.answer with
      | some (.ok a) => (next a).tries w ctx course.live
      | _ => []

theorem tries_alike (blind : w.Blind alike) (ctx : Context) (p : Plan α)
    (lives : l.Alike alike l') :
    (p.tries w ctx l).map Tried.concealed = (p.tries w ctx l').map Tried.concealed := by
  induction p generalizing l l' with
  | done answer => rfl
  | ask query => exact query.tries_alike blind ctx lives
  | andThen first next first_ih next_ih =>
    have course := first.course_alike blind ctx lives
    simp only [tries, List.map_append, first_ih lives, ← course.answer]
    refine congrArg _ ?_
    split
    · exact next_ih _ course.live
    · rfl

end Plan

/-! ## Scripted executors -/

/-- What a scripted executor was given, without the value of a key. -/
def Sent.concealed (s : Sent) : Sent := { s with request := s.request.concealed }

/-- The same script and contexts, and logs that only keys tell apart. -/
structure Stage.Alike (s s' : Stage) : Prop where
  script : s.script = s'.script
  contexts : s.contexts = s'.contexts
  log : s.log.map Sent.concealed = s'.log.map Sent.concealed

theorem Cue.play_alike (cue : Cue) (ctx : Context) {u v : World Stage}
    (worlds : u.Alike Stage.Alike v) :
    (cue.play ctx u).1 = (cue.play ctx v).1 ∧
      (cue.play ctx u).2.Alike Stage.Alike (cue.play ctx v).2 := by
  obtain ⟨time, script, contexts, log⟩ := u
  obtain ⟨_, _, _, log'⟩ := v
  obtain ⟨rfl, rfl, rfl, same⟩ := worlds
  exact ⟨rfl, rfl, rfl, rfl, same⟩

theorem Executor.scripted_blind (name : String) : (scripted name).Blind Stage.Alike := by
  intro ctx r r' u v same worlds
  obtain ⟨time, script, contexts, log⟩ := u
  obtain ⟨_, _, _, log'⟩ := v
  obtain ⟨rfl, rfl, rfl, logs⟩ := worlds
  have grown : (Sent.mk name time.now r :: log).map Sent.concealed =
      (Sent.mk name time.now r' :: log').map Sent.concealed := by
    simp only [List.map_cons, Sent.concealed, same] at logs ⊢
    rw [logs]
  unfold scripted
  simp only
  split
  · exact .some ⟨rfl, rfl, rfl, rfl, grown⟩
  · cases script with
    | nil => exact .some (Cue.exhausted.play_alike ctx ⟨rfl, rfl, rfl, grown⟩)
    | cons cue rest => exact .some (cue.play_alike ctx ⟨rfl, rfl, rfl, grown⟩)

theorem Executor.refuse_blind {alike : σ → σ → Prop} : refuse.Blind alike := by
  intro ctx r r' u v same worlds
  unfold refuse
  rw [worlds.time]
  split <;> exact .some ⟨rfl, worlds⟩

/-- Scripted executors log keys and pay no attention to them. -/
theorem Wiring.rehearsal_blind : rehearsal.Blind Stage.Alike where
  supplied executor := by
    unfold rehearsal
    simp only
    cases executor.retry with
    | none => exact Executor.scripted_blind _
    | some policy => exact (Executor.scripted_blind _).retrying policy _
  managed _ := Executor.refuse_blind

end ExplorerClient
