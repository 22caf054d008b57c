import ExplorerClient.Proofs.Handed

/-!
# Courses of calls

A call that never comes to an end has no outcome, so its outcome does not show what it did before.
Its course does: the requests that were handed to the executor of the client, in order, and what
came of them.

Results:
* `Query.fate`: all that can become of a query.
* `Query.course_asked`: a query hands over one request, unless it is refused.
* `Plan.course_ended`: the outcome of a plan is the end of its course.
* `Plan.asked_handed`: each request handed over is the one that its query makes of the client.
* `Plan.asked_reply`: what came of it is what the executor of the client answered.
* `Plan.course_idle`: a plan that asks for nothing changes nothing.
* `Plan.course_opens`: the first request meets the world that the plan began in.
* `Plan.course_world`: the world goes on as the executor and the reading of bodies let it.
* `Plan.last_course`: the last request is that of the last query.
* `Operation.course_follows`: an operation asks its queries in order, up to the first that fails.
-/

namespace ExplorerClient

variable {ε σ α β : Type}

/-! ## Courses -/

/-- A request that was handed to the executor of a client. -/
structure Asked where
  query : Query
  url : String
  request : Request
  /-- What the executor answered, if it ever did. -/
  reply : Option (Except Error Response)

namespace Asked

/-- The status of the response, or 0 if there was none. -/
def status (a : Asked) : Nat :=
  match a.reply with
  | some (.ok response) => response.status
  | _ => 0

/-- The record that is kept of the request. -/
def last (a : Asked) : LastRequest :=
  ⟨a.query.inquiry.method.name, a.url, a.query.inquiry.body.getD "", a.status⟩

end Asked

/-- What a call does. -/
structure Course (ε σ α : Type) where
  /-- The requests handed to the executor of the client, in order. -/
  asked : List Asked
  /-- The outcome, if the call comes to an end. -/
  answer : Option (Except Error α)
  /-- The client and the world at the end, or where nothing happens any more. -/
  live : Live ε σ

namespace Course

/-- The outcome of a course that comes to an end. -/
def ended (c : Course ε σ α) : Option (Except Error α × Live ε σ) := c.answer.map (·, c.live)

/-- A course that goes on with what depends on its value, if it has one. -/
def andThen (first : Course ε σ α) (next : α → Live ε σ → Course ε σ β) : Course ε σ β :=
  match first.answer with
  | none => ⟨first.asked, none, first.live⟩
  | some (.error e) => ⟨first.asked, some (.error e), first.live⟩
  | some (.ok value) =>
    let second := next value first.live
    ⟨first.asked ++ second.asked, second.answer, second.live⟩

end Course

/-- The course of a query. -/
def Query.course (w : Wiring ε σ) (ctx : Context) (q : Query) (live : Live ε σ) :
    Course ε σ q.entry.α :=
  match q.inquiry.url live.client with
  | .error e => ⟨[], some (.error e), live⟩
  | .ok url =>
    let done := Exchange.run w ctx q.inquiry.method url q.inquiry.body live
    ⟨done.handed.toList.map fun (request, reply) => ⟨q, url, request, reply⟩,
      done.answer.map q.reply.interpret, done.live⟩

/-- The course of a plan. -/
def Plan.course (w : Wiring ε σ) (ctx : Context) : {α : Type} → Plan α → Live ε σ → Course ε σ α
  | _, .done answer, live => ⟨[], some answer, live⟩
  | _, .ask query, live => query.course w ctx live
  | _, .andThen first next, live =>
    (first.course w ctx live).andThen fun a live => (next a).course w ctx live

/-- The course of an operation. -/
def Operation.course (w : Wiring ε σ) (ctx : Context) (op : Operation) (live : Live ε σ) :
    Course ε σ Shown := op.plan.course w ctx live

/-! ## Errors that stay as they are -/

theorem Reply.interpret_error (r : Reply α) {e : Error}
    (other : ∀ status body, e ≠ .requestFailed status body) :
    r.interpret (.error e) = .error e := by
  have missing : ∀ resource, onMissing resource e = e := by
    intro resource
    unfold onMissing
    split
    · exact absurd rfl (other _ _)
    · rfl
  have rejected : onRejected e = e := by
    unfold onRejected
    split
    · exact absurd rfl (other _ _)
    · rfl
  cases r with
  | resource resource decode =>
    show Except.error (onMissing resource e) = Except.error e
    rw [missing]
  | broadcast understood =>
    show Except.error (onRejected e) = Except.error e
    rw [rejected]
  | plain understood => rfl

theorem Reply.interpret_context {r : Reply α} {e : Error} (h : e.isContext = true) :
    r.interpret (.error e) = .error e := by
  apply r.interpret_error
  rintro status body rfl
  cases h

/-! ## What can become of a query -/

namespace Query

variable {w : Wiring ε σ} {ctx : Context} {q : Query} {live : Live ε σ} {url : String}
  {request : Request} {world : World σ}

/-- A query that is refused, by its preconditions or because no request can be made. -/
theorem course_refused {e : Error} (refused : q.handed live.client = .error e) :
    q.course w ctx live = ⟨[], some (.error e), live⟩ := by
  unfold course
  cases asked : q.inquiry.url live.client with
  | error f =>
    rw [handed, asked] at refused
    cases refused
    rfl
  | ok url =>
    rw [handed, asked] at refused
    cases made : live.client.request q.inquiry.method url q.inquiry.body with
    | error f =>
      simp only [made, bind, Except.bind] at refused
      cases refused
      have kept := q.reply.interpret_error (Client.request_refusal made).ne_failed
      simp [Exchange.run, made, kept]
    | ok request =>
      simp only [made, bind, Except.bind] at refused
      cases refused

/-- The course of a query for which a request is made. -/
theorem course_handed (handed : q.handed live.client = .ok (url, request)) :
    q.course w ctx live =
      let done := Exchange.run w ctx q.inquiry.method url q.inquiry.body live
      ⟨done.handed.toList.map fun (request, reply) => ⟨q, url, request, reply⟩,
        done.answer.map q.reply.interpret, done.live⟩ := by
  unfold course
  rw [(handed_ok handed).1]

theorem course_unanswered (handed : q.handed live.client = .ok (url, request))
    (silent : w.executor live.client.slot ctx request live.world = none) :
    q.course w ctx live = ⟨[⟨q, url, request, none⟩], none, live⟩ := by
  rw [course_handed handed]
  simp [Exchange.run, (handed_ok handed).2, silent]

theorem course_failed {e : Error} (handed : q.handed live.client = .ok (url, request))
    (failed : w.executor live.client.slot ctx request live.world = some (.error e, world)) :
    q.course w ctx live = ⟨[⟨q, url, request, some (.error e)⟩],
      some (q.reply.interpret (.error e)),
      ⟨{ live.client with last := Asked.last ⟨q, url, request, some (.error e)⟩ }, world⟩⟩ := by
  rw [course_handed handed]
  simp only [Exchange.run, (handed_ok handed).2, failed]
  rfl

theorem course_reading {response : Response} (handed : q.handed live.client = .ok (url, request))
    (answered : w.executor live.client.slot ctx request live.world = some (.ok response, world))
    (hangs : response.readBody ctx world.time = none) :
    q.course w ctx live =
      ⟨[⟨q, url, request, some (.ok response)⟩], none, ⟨live.client, world⟩⟩ := by
  rw [course_handed handed]
  simp [Exchange.run, (handed_ok handed).2, answered, hangs]

theorem course_read {response : Response} {bytes : Except Error ByteArray} {time : Timeline}
    (handed : q.handed live.client = .ok (url, request))
    (answered : w.executor live.client.slot ctx request live.world = some (.ok response, world))
    (read : response.readBody ctx world.time = some (bytes, time)) :
    q.course w ctx live = ⟨[⟨q, url, request, some (.ok response)⟩],
      some (q.reply.interpret (bytes.bind response.outcome)),
      ⟨{ live.client with last := Asked.last ⟨q, url, request, some (.ok response)⟩ },
        { world with time }⟩⟩ := by
  rw [course_handed handed]
  simp only [Exchange.run, (handed_ok handed).2, answered, read]
  rfl

/-- All that can become of a query. -/
inductive Fate (w : Wiring ε σ) (ctx : Context) (q : Query) (live : Live ε σ) : Prop where
  /-- It is refused, and nothing happens. -/
  | refused (e : Error) (handed : q.handed live.client = .error e)
      (course : q.course w ctx live = ⟨[], some (.error e), live⟩)
  /-- The executor never answers. -/
  | unanswered (url : String) (request : Request)
      (handed : q.handed live.client = .ok (url, request))
      (asked : w.executor live.client.slot ctx request live.world = none)
      (course : q.course w ctx live = ⟨[⟨q, url, request, none⟩], none, live⟩)
  | failed (url : String) (request : Request) (e : Error) (world : World σ)
      (handed : q.handed live.client = .ok (url, request))
      (asked : w.executor live.client.slot ctx request live.world = some (.error e, world))
      (course : q.course w ctx live = ⟨[⟨q, url, request, some (.error e)⟩],
        some (q.reply.interpret (.error e)),
        ⟨{ live.client with last := Asked.last ⟨q, url, request, some (.error e)⟩ }, world⟩⟩)
  /-- There is a response, but its body never ends. -/
  | reading (url : String) (request : Request) (response : Response) (world : World σ)
      (handed : q.handed live.client = .ok (url, request))
      (asked : w.executor live.client.slot ctx request live.world = some (.ok response, world))
      (course : q.course w ctx live =
        ⟨[⟨q, url, request, some (.ok response)⟩], none, ⟨live.client, world⟩⟩)
  | read (url : String) (request : Request) (response : Response) (world : World σ)
      (bytes : Except Error ByteArray) (time : Timeline)
      (handed : q.handed live.client = .ok (url, request))
      (asked : w.executor live.client.slot ctx request live.world = some (.ok response, world))
      (body : response.readBody ctx world.time = some (bytes, time))
      (course : q.course w ctx live = ⟨[⟨q, url, request, some (.ok response)⟩],
        some (q.reply.interpret (bytes.bind response.outcome)),
        ⟨{ live.client with last := Asked.last ⟨q, url, request, some (.ok response)⟩ },
          { world with time }⟩⟩)

theorem fate (w : Wiring ε σ) (ctx : Context) (q : Query) (live : Live ε σ) :
    q.Fate w ctx live := by
  cases handed : q.handed live.client with
  | error e => exact .refused e handed (course_refused handed)
  | ok made =>
    obtain ⟨url, request⟩ := made
    cases asked : w.executor live.client.slot ctx request live.world with
    | none => exact .unanswered url request handed asked (course_unanswered handed asked)
    | some answered =>
      obtain ⟨e | response, world⟩ := answered
      · exact .failed url request e world handed asked (course_failed handed asked)
      · cases body : response.readBody ctx world.time with
        | none =>
          exact .reading url request response world handed asked
            (course_reading handed asked body)
        | some read =>
          exact .read url request response world read.1 read.2 handed asked body
            (course_read handed asked body)

/-- A query is refused, or exactly one request is handed over. -/
theorem course_asked (w : Wiring ε σ) (ctx : Context) (q : Query) (live : Live ε σ) :
    (∃ e, q.handed live.client = .error e ∧ q.course w ctx live = ⟨[], some (.error e), live⟩) ∨
    ∃ url request reply, q.handed live.client = .ok (url, request) ∧
      (q.course w ctx live).asked = [⟨q, url, request, reply⟩] := by
  cases q.fate w ctx live with
  | refused e handed h => exact Or.inl ⟨e, handed, h⟩
  | unanswered url request handed _ h | failed url request e world handed _ h
  | reading url request response world handed _ h
  | read url request response world bytes time handed _ _ h =>
    exact Or.inr ⟨url, request, _, handed, by rw [h]⟩

end Query

/-! ## The end of a course -/

theorem Query.course_ended (w : Wiring ε σ) (ctx : Context) (q : Query) (live : Live ε σ) :
    (q.course w ctx live).ended = q.call w ctx live := by
  unfold course Query.call Endpoint.call exchange Query.inquiry Query.reply
  cases q.entry.endpoint.inquiry.url live.client with
  | error e => rfl
  | ok url =>
    simp only [Course.ended]
    cases (Exchange.run w ctx q.entry.endpoint.inquiry.method url
      q.entry.endpoint.inquiry.body live).answer <;> rfl

theorem Course.ended_andThen (first : Course ε σ α) (next : α → Live ε σ → Course ε σ β) :
    (first.andThen next).ended = match first.ended with
      | none => none
      | some (.error e, live) => some (.error e, live)
      | some (.ok value, live) => (next value live).ended := by
  obtain ⟨asked, answer, live⟩ := first
  cases answer with
  | none => rfl
  | some answer => cases answer <;> rfl

theorem Plan.course_ended (w : Wiring ε σ) (ctx : Context) (p : Plan α) (live : Live ε σ) :
    (p.course w ctx live).ended = p.call w ctx live := by
  induction p generalizing live with
  | done answer => rfl
  | ask query => exact query.course_ended w ctx live
  | andThen first next first_ih next_ih =>
    rw [course, Course.ended_andThen, first_ih]
    simp only [next_ih]
    rfl

theorem Operation.course_ended (w : Wiring ε σ) (ctx : Context) (op : Operation)
    (live : Live ε σ) : (op.course w ctx live).ended = op.call w ctx live := by
  rw [course, Plan.course_ended, Operation.plan_call]

/-! ## What is asked -/

namespace Plan

/-- A plan changes nothing of the client but the record of the last request. -/
theorem course_client (w : Wiring ε σ) (ctx : Context) (p : Plan α) (live : Live ε σ) :
    (p.course w ctx live).live.client =
      { live.client with last := (p.course w ctx live).live.client.last } := by
  induction p generalizing live with
  | done answer => rfl
  | ask query =>
    rw [course]
    cases query.fate w ctx live <;> rename_i h <;> rw [h]
  | andThen first next first_ih next_ih =>
    rw [course, Course.andThen]
    split
    · exact first_ih live
    · exact first_ih live
    · rename_i value _
      simp only
      rw [next_ih value, first_ih live]

theorem asked_handed (w : Wiring ε σ) (ctx : Context) (p : Plan α) (live : Live ε σ) :
    ∀ a ∈ (p.course w ctx live).asked, a.query.handed live.client = .ok (a.url, a.request) := by
  induction p generalizing live with
  | done answer => simp [course]
  | ask query =>
    intro b hb
    rw [course] at hb
    cases query.fate w ctx live with
    | refused e _ h => simp [h] at hb
    | unanswered url request handed _ h | failed url request e world handed _ h
    | reading url request response world handed _ h
    | read url request response world bytes time handed _ _ h =>
      rw [h] at hb
      obtain rfl := List.mem_singleton.mp hb
      exact handed
  | andThen first next first_ih next_ih =>
    intro b hb
    rw [course, Course.andThen] at hb
    split at hb
    · exact first_ih live b hb
    · exact first_ih live b hb
    · rename_i value _
      rcases List.mem_append.mp hb with hb | hb
      · exact first_ih live b hb
      · rw [← next_ih value _ b hb]
        refine b.query.handed_congr ?_
        rw [course_client]

/-- What came of a request is what the executor of the client answered. -/
theorem asked_reply (w : Wiring ε σ) (ctx : Context) (p : Plan α) (live : Live ε σ) :
    ∀ a ∈ (p.course w ctx live).asked, ∃ before,
      (w.executor live.client.slot ctx a.request before).map (·.1) = a.reply := by
  induction p generalizing live with
  | done answer => simp [course]
  | ask query =>
    intro b hb
    rw [course] at hb
    cases query.fate w ctx live with
    | refused e _ h => simp [h] at hb
    | unanswered url request _ asked h | failed url request e world _ asked h
    | reading url request response world _ asked h
    | read url request response world bytes time _ asked _ h =>
      rw [h] at hb
      obtain rfl := List.mem_singleton.mp hb
      exact ⟨live.world, by rw [asked]; rfl⟩
  | andThen first next first_ih next_ih =>
    intro b hb
    rw [course, Course.andThen] at hb
    split at hb
    · exact first_ih live b hb
    · exact first_ih live b hb
    · rename_i value _
      rcases List.mem_append.mp hb with hb | hb
      · exact first_ih live b hb
      · have later := next_ih value _ b hb
        rw [course_client] at later
        exact later

/-- A plan that asks for nothing changes nothing. -/
theorem course_idle (w : Wiring ε σ) (ctx : Context) (p : Plan α) (live : Live ε σ)
    (idle : (p.course w ctx live).asked = []) : (p.course w ctx live).live = live := by
  induction p generalizing live with
  | done answer => rfl
  | ask query =>
    rw [course] at idle ⊢
    cases query.fate w ctx live with
    | refused e _ h => rw [h]
    | unanswered url request _ _ h | failed url request e world _ _ h
    | reading url request response world _ _ h
    | read url request response world bytes time _ _ _ h =>
      rw [h] at idle
      cases idle
  | andThen first next first_ih next_ih =>
    rw [course, Course.andThen] at idle ⊢
    split at idle
    · exact first_ih live idle
    · exact first_ih live idle
    · rename_i value _
      obtain ⟨none_first, none_next⟩ := List.append_eq_nil_iff.mp idle
      exact (next_ih value _ none_next).trans (first_ih live none_first)

/-- The first request that a plan hands over comes to the executor in the world that the plan
began in. -/
theorem course_opens (w : Wiring ε σ) (ctx : Context) (p : Plan α) (live : Live ε σ) {a : Asked}
    {rest : List Asked} (opens : (p.course w ctx live).asked = a :: rest) :
    a.reply = (w.executor live.client.slot ctx a.request live.world).map (·.1) := by
  induction p generalizing live rest with
  | done answer => cases opens
  | ask query =>
    rw [course] at opens
    cases query.fate w ctx live with
    | refused e _ h =>
      rw [h] at opens
      cases opens
    | unanswered url request _ asked h | failed url request e world _ asked h
    | reading url request response world _ asked h
    | read url request response world bytes time _ asked _ h =>
      rw [h] at opens
      cases opens
      rw [asked]
      rfl
  | andThen first next first_ih next_ih =>
    rw [course, Course.andThen] at opens
    split at opens
    · exact first_ih live opens
    · exact first_ih live opens
    · rename_i value _
      cases none_first : (first.course w ctx live).asked with
      | nil =>
        simp only [none_first, List.nil_append] at opens
        have later := next_ih value _ opens
        rwa [course_idle w ctx first live none_first] at later
      | cons b more =>
        simp only [none_first, List.cons_append] at opens
        cases opens
        exact first_ih live none_first

/-- What becomes of the world in a plan is what becomes of it under the executor of the client and
under the reading of bodies, one after the other. -/
theorem course_world (w : Wiring ε σ) (ctx : Context) (p : Plan α) (live : Live ε σ)
    {R : World σ → World σ → Prop} (refl : ∀ u, R u u) (trans : ∀ {u v x}, R u v → R v x → R u x)
    (answers : ∀ request u outcome v,
      w.executor live.client.slot ctx request u = some (outcome, v) → R u v)
    (reads : ∀ (response : Response) (u : World σ) bytes time,
      response.readBody ctx u.time = some (bytes, time) → R u { u with time }) :
    R live.world (p.course w ctx live).live.world := by
  induction p generalizing live with
  | done answer => exact refl _
  | ask query =>
    rw [course]
    cases query.fate w ctx live with
    | refused e _ h | unanswered url request _ _ h =>
      rw [h]
      exact refl _
    | failed url request e world _ asked h | reading url request response world _ asked h =>
      rw [h]
      exact answers _ _ _ _ asked
    | read url request response world bytes time _ asked body h =>
      rw [h]
      exact trans (answers _ _ _ _ asked) (reads response world bytes time body)
  | andThen first next first_ih next_ih =>
    have front := first_ih live answers
    rw [course, Course.andThen]
    split
    · exact front
    · exact front
    · rename_i value _
      exact trans front (next_ih value _ (by rw [course_client]; exact answers))

/-- The record of the last request after a course that began with the record `before`. -/
theorem last_course (w : Wiring ε σ) (ctx : Context) (p : Plan α) (live : Live ε σ)
    (ends : (p.course w ctx live).answer.isSome) :
    (p.course w ctx live).live.client.last =
      ((p.course w ctx live).asked.getLast?.map Asked.last).getD live.client.last := by
  induction p generalizing live with
  | done answer => rfl
  | ask query =>
    rw [course] at ends ⊢
    cases query.fate w ctx live with
    | refused e _ h =>
      rw [h]
      rfl
    | unanswered url request _ _ h | reading url request response world _ _ h =>
      rw [h] at ends
      cases ends
    | failed url request e world _ _ h | read url request response world bytes time _ _ _ h =>
      rw [h]
      rfl
  | andThen first next first_ih next_ih =>
    rw [course, Course.andThen] at ends ⊢
    split at ends
    · simp at ends
    · rename_i e failed
      exact first_ih live (by rw [failed]; rfl)
    · rename_i value found
      simp only at ends ⊢
      rw [next_ih value _ ends, first_ih live (by rw [found]; rfl), List.getLast?_append]
      cases ((next value).course w ctx (first.course w ctx live).live).asked.getLast? <;> simp

end Plan

/-! ## The queries of an operation -/

/-- The queries of an operation, in order. -/
def Operation.queries : Operation → List Query
  | .query q => [q]
  | .balance a => [.address (.confirmedBalance a), .address (.unconfirmedBalance a)]
  | .history a => [.address (.confirmedHistory a), .address (.unconfirmedHistory a)]
  | .allBalances as => (pieces maxAddresses as).map fun piece => .address (.confirmedBalances piece)
  | .allUnspents as => (pieces maxAddresses as).map fun piece => .address (.confirmedUnspents piece)
  | .allDetails ids => (pieces maxTransactions ids).map fun piece => .transaction (.details piece)

/-- A course that asks queries in order, and all of them if it comes to a value. -/
def Course.Follows (c : Course ε σ α) (qs : List Query) : Prop :=
  c.asked.map (·.query) <+: qs ∧ ∀ value, c.answer = some (.ok value) → c.asked.map (·.query) = qs

theorem Course.Follows.andThen {first : Course ε σ α} {next : α → Live ε σ → Course ε σ β}
    {qs rs : List Query} (hfirst : first.Follows qs)
    (hnext : ∀ value, (next value first.live).Follows rs) :
    (first.andThen next).Follows (qs ++ rs) := by
  unfold Course.andThen
  split
  · exact ⟨hfirst.1.trans (List.prefix_append ..), by simp⟩
  · exact ⟨hfirst.1.trans (List.prefix_append ..), by simp⟩
  · rename_i value found
    simp only [Follows, List.map_append, hfirst.2 value found]
    refine ⟨(List.prefix_append_right_inj _).mpr (hnext value).1, fun result h => ?_⟩
    rw [(hnext value).2 result h]

/-- A plan that asks queries in order, whatever the client and its executor do. -/
def Plan.Follows (w : Wiring ε σ) (ctx : Context) (p : Plan α) (qs : List Query) : Prop :=
  ∀ live, (p.course w ctx live).Follows qs

namespace Plan.Follows

variable {w : Wiring ε σ} {ctx : Context}

theorem ask (q : Query) : (Plan.ask q).Follows w ctx [q] := by
  intro live
  rw [Plan.course]
  cases q.fate w ctx live with
  | refused e _ h =>
    rw [h]
    exact ⟨List.nil_prefix, by simp⟩
  | unanswered url request _ _ h | failed url request e world _ _ h
  | reading url request response world _ _ h
  | read url request response world bytes time _ _ _ h =>
    rw [h]
    exact ⟨List.prefix_rfl, fun _ _ => rfl⟩

theorem andThen {first : Plan α} {next : α → Plan β} {qs rs : List Query}
    (hfirst : first.Follows w ctx qs) (hnext : ∀ a, (next a).Follows w ctx rs) :
    (first.andThen next).Follows w ctx (qs ++ rs) := fun live =>
  (hfirst live).andThen fun a => hnext a _

theorem done (answer : Except Error α) : (Plan.done answer).Follows w ctx [] := fun _ =>
  ⟨List.prefix_rfl, fun _ _ => rfl⟩

theorem map {p : Plan α} {qs : List Query} (h : p.Follows w ctx qs) (f : α → β) :
    (p.map f).Follows w ctx qs := by
  have := h.andThen fun a => done (.ok (f a))
  rwa [List.append_nil] at this

theorem each {p : α → Plan (List β)} {query : α → Query}
    (h : ∀ x, (p x).Follows w ctx [query x]) (xs : List α) :
    (Plan.each p xs).Follows w ctx (xs.map query) := by
  induction xs with
  | nil => exact done _
  | cons x xs ih => exact (h x).andThen fun found => ih.map _

theorem inPieces {size : Nat} {p : List α → Plan (List β)} {query : List α → Query}
    (h : ∀ piece, (p piece).Follows w ctx [query piece]) (xs : List α) :
    (Plan.inPieces size p xs).Follows w ctx ((pieces size xs).map query) := by
  unfold Plan.inPieces
  split
  · exact fun live => ⟨List.nil_prefix, by simp [Plan.course]⟩
  · exact each h _

end Plan.Follows

theorem Operation.course_follows (w : Wiring ε σ) (ctx : Context) (op : Operation)
    (live : Live ε σ) : (op.course w ctx live).Follows op.queries := by
  cases op with
  | query q => exact (Plan.Follows.ask q).map _ live
  | balance a | history a =>
    exact ((Plan.Follows.ask _).andThen fun _ => (Plan.Follows.ask _).map _).map _ live
  | allBalances as | allUnspents as | allDetails ids =>
    exact (Plan.Follows.inPieces (fun piece => Plan.Follows.ask _) _).map _ live

end ExplorerClient
