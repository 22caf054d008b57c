import ExplorerClient.Proofs.Replayed
import ExplorerClient.Proofs.Required
import ExplorerClient.Proofs.Stepped

/-!
# What is recorded of the last request

The handles of a client share all of it and differ in the contexts of their calls. So what happens
to a client is a row of events: calls under any contexts, changes of its settings, and whatever goes
on outside of it: contexts are made or end, time passes, other clients are called.

The record of the last request is written by calls alone, and only by those that hand a request to
the executor. It tells of the request that was handed over last, and of what the executor finally
answered.

Results:
* `retryFrom_last`: a response that is reached by retrying is that of the last attempt.
* `Asked.last_tells`: what is recorded of a request tells of it.
* `Event.after_last`, `run_last`: what one event, and what a run, leaves recorded.
* `Session.leads_run`: a session is a run of each of its clients, through whichever handles.
* `Client.last_recorded`: the record after any run of a client.
-/

namespace ExplorerClient

variable {ε σ α : Type}

/-! ## The last attempt -/

namespace Executor

variable {backoff : Backoff} {random : Nat → Nat} {c : Context} {request : Request}

/-- Watching retries changes nothing of what they come to, and shows that a response is that of the
last attempt. -/
theorem retryFrom_last {inner : Executor σ} {left attempt : Nat} {w v : World σ}
    {response : Response}
    (h : inner.retryFrom backoff random c request left attempt w = some (.ok response, v)) :
    ∃ front last, inner.watched.retryFrom backoff random c request left attempt (w.watched []) =
        some (.ok response, v.watched (front ++ [last])) ∧ last.outcome = .ok response := by
  obtain ⟨front, last, made, final⟩ := (made_attempts h).final response rfl
  refine ⟨front, last, ?_, final⟩
  rw [retryFrom_watched, h, made]
  rfl

end Executor

/-! ## What is recorded of a request -/

/-- The record tells of a request that was handed over: of the text that its address was made from,
of its body, and of the status of the response, or 0 if there was none. -/
structure LastRequest.Tells (last : LastRequest) (a : Asked) : Prop where
  method : last.method = a.request.method.name
  url : last.url = a.url
  address : Url.parse last.url = .ok a.request.url
  body : a.request.body = none ∧ last.postData = "" ∨
    a.request.body = some (.buffered last.postData.toUTF8)
  answered : ∀ response, a.reply = some (.ok response) → last.status = response.status
  failed : (∀ response, a.reply ≠ some (.ok response)) → last.status = 0

/-- A query has something to send only if its method sends it. -/
theorem Query.inquiry_body (q : Query) :
    q.inquiry.body = none ∨ q.inquiry.method.sendsBody = true := by
  cases q with
  | address q => cases q <;> first | exact Or.inl rfl | exact Or.inr rfl
  | script q => cases q <;> first | exact Or.inl rfl | exact Or.inr rfl
  | block q => cases q <;> exact Or.inl rfl
  | network q => cases q <;> exact Or.inl rfl
  | token q => cases q <;> exact Or.inl rfl
  | transaction q => cases q <;> first | exact Or.inl rfl | exact Or.inr rfl

theorem Asked.last_tells {a : Asked} {c : Client ε}
    (handed : a.query.handed c = .ok (a.url, a.request)) : a.last.Tells a := by
  obtain ⟨method, url, body⟩ := Client.request_ok (Query.handed_ok handed).2
  refine ⟨congrArg Method.name method.symm, rfl, url, ?_, ?_, ?_⟩
  · rw [body]
    rcases a.query.inquiry_body with nothing | sends
    · refine Or.inl ⟨by simp [nothing], ?_⟩
      rw [Asked.last, nothing]
      rfl
    · rw [if_pos sends]
      cases text : a.query.inquiry.body with
      | none =>
        refine Or.inl ⟨rfl, ?_⟩
        rw [Asked.last, text]
        rfl
      | some text' =>
        refine Or.inr ?_
        rw [Asked.last, text]
        rfl
  · intro response reply
    show a.status = response.status
    rw [Asked.status, reply]
  · intro none_there
    show a.status = 0
    unfold Asked.status
    split
    · rename_i response reply
      exact absurd reply (none_there response)
    · rfl

/-! ## Runs of a client -/

/-- What may happen to a client. -/
inductive Event (ε σ : Type) where
  /-- A call through a handle with the context. -/
  | call (ctx : Context) (operation : Operation)
  | set (setting : Setting ε)
  | setChainAndNetwork (chain : Chain) (network : Network)
  /-- Something that does not concern the client: a context is made or ends, time passes, another
  client is called. -/
  | outside (change : World σ → World σ)

namespace Event

/-- The requests that an event hands to the executor of the client. -/
def asked (w : Wiring ε σ) (live : Live ε σ) : Event ε σ → List Asked
  | .call ctx op => (op.course w ctx live).asked
  | _ => []

/-- What is there after an event, unless it never comes to an end. A change that is refused changes
nothing. -/
def after (w : Wiring ε σ) (live : Live ε σ) : Event ε σ → Option (Live ε σ)
  | .call ctx op => (op.call w ctx live).map (·.2)
  | .set setting =>
    match live.client.set w.connect setting with
    | .ok client => some { live with client }
    | .error _ => some live
  | .setChainAndNetwork chain network =>
    match live.client.setChainAndNetwork chain network with
    | .ok client => some { live with client }
    | .error _ => some live
  | .outside change => some { live with world := change live.world }

/-- A row of events: the requests that they hand to the executor of the client, and what is there
afterwards. -/
def run (w : Wiring ε σ) (live : Live ε σ) : List (Event ε σ) → Option (List Asked × Live ε σ)
  | [] => some ([], live)
  | e :: rest =>
    match e.after w live with
    | none => none
    | some next => (run w next rest).map fun (more, after) => (e.asked w live ++ more, after)

end Event

/-- The record after some requests have been handed over. -/
def LastRequest.behind (before : LastRequest) (asked : List Asked) : LastRequest :=
  (asked.getLast?.map Asked.last).getD before

theorem LastRequest.behind_append (before : LastRequest) (xs ys : List Asked) :
    before.behind (xs ++ ys) = (before.behind xs).behind ys := by
  unfold behind
  rw [List.getLast?_append]
  cases ys.getLast? <;> rfl

namespace Client

variable {connect : Connect} {c c' : Client ε}

theorem setChainAndNetwork_last {chain : Chain} {network : Network}
    (h : c.setChainAndNetwork chain network = .ok c') : c'.last = c.last := by
  obtain ⟨_, -, h⟩ := ok_of_bind h
  cases h
  rfl

theorem reconfigure_last {update : Managed → Managed}
    (h : reconfigure connect c update = .ok c') : c'.last = c.last := by
  cases filled : c.slot <;> simp only [reconfigure, filled] at h
  all_goals
    obtain ⟨slot, -, h⟩ := ok_of_bind h
    cases h
    rfl

theorem set_last {s : Setting ε} (h : c.set connect s = .ok c') : c'.last = c.last := by
  cases s with
  | chain value | network value => exact setChainAndNetwork_last h
  | apiKey value | userAgent value | rateLimit value | executor value =>
    cases h
    rfl
  | requestTimeout value | retryCount value | backoff value | dialer value | pool value =>
    rw [set] at h
    exact reconfigure_last h

theorem new_last {settings : List (Setting ε)} (h : new connect settings = .ok c) :
    c.last = {} := by
  obtain ⟨_, -, h⟩ := ok_of_bind h
  cases given : (Choices.ofSettings settings).executor <;> simp only [given] at h
  all_goals
    obtain ⟨slot, -, h⟩ := ok_of_bind h
    cases h
    rfl

end Client

namespace Event

variable {w : Wiring ε σ} {live after : Live ε σ}

theorem after_last {e : Event ε σ} (h : e.after w live = some after) :
    after.client.last = live.client.last.behind (e.asked w live) := by
  cases e with
  | call ctx op =>
    obtain ⟨⟨answer, end_⟩, called, rfl⟩ := Option.map_eq_some_iff.mp h
    rw [← op.course_ended] at called
    obtain ⟨result, answered, same⟩ := Option.map_eq_some_iff.mp called
    cases same
    exact op.plan.last_course w ctx live (by rw [← Operation.course, answered]; rfl)
  | set setting =>
    rw [Event.after] at h
    split at h
    · rename_i client changed
      cases h
      exact Client.set_last changed
    · cases h
      rfl
  | setChainAndNetwork chain network =>
    rw [Event.after] at h
    split at h
    · rename_i client changed
      cases h
      exact Client.setChainAndNetwork_last changed
    · cases h
      rfl
  | outside change =>
    cases h
    rfl

theorem run_cons {e : Event ε σ} {rest : List (Event ε σ)} {asked : List Asked}
    (h : run w live (e :: rest) = some (asked, after)) :
    ∃ next more, e.after w live = some next ∧ run w next rest = some (more, after) ∧
      asked = e.asked w live ++ more := by
  rw [run] at h
  split at h
  · cases h
  · rename_i next happened
    obtain ⟨⟨more, end_⟩, ran, same⟩ := Option.map_eq_some_iff.mp h
    cases same
    exact ⟨next, more, happened, ran, rfl⟩

theorem run_one {e : Event ε σ} (h : e.after w live = some after) :
    run w live [e] = some (e.asked w live, after) := by
  rw [run, h]
  simp only [run, Option.map_some, List.append_nil]

theorem run_append {front back : List (Event ε σ)} {asked more : List Asked} {middle : Live ε σ}
    (h : run w live front = some (asked, middle)) (h' : run w middle back = some (more, after)) :
    run w live (front ++ back) = some (asked ++ more, after) := by
  induction front generalizing live asked with
  | nil =>
    cases h
    exact h'
  | cons e rest ih =>
    obtain ⟨next, asked', happened, ran, rfl⟩ := run_cons h
    rw [List.cons_append, run, happened]
    simp only [ih ran, Option.map_some, List.append_assoc]

theorem run_last {events : List (Event ε σ)} {asked : List Asked}
    (h : run w live events = some (asked, after)) :
    after.client.last = live.client.last.behind asked := by
  induction events generalizing live asked with
  | nil =>
    cases h
    rfl
  | cons e rest ih =>
    obtain ⟨next, more, happened, ran, rfl⟩ := run_cons h
    rw [ih ran, after_last happened, LastRequest.behind_append]

/-- A request was handed over by a call of a run, to the executor that the client had then. -/
inductive Handed (w : Wiring ε σ) (start : Live ε σ) (events : List (Event ε σ)) (a : Asked) :
    Prop where
  | intro (earlier : List (Event ε σ)) (ctx : Context) (op : Operation)
    (later : List (Event ε σ)) (split : events = earlier ++ .call ctx op :: later)
    (reported : List Asked) (before : Live ε σ)
    (led : run w start earlier = some (reported, before))
    (asked : a ∈ (op.course w ctx before).asked)

theorem run_handed {events : List (Event ε σ)} {asked : List Asked}
    (h : run w live events = some (asked, after)) {a : Asked} (ha : a ∈ asked) :
    Handed w live events a := by
  induction events generalizing live asked with
  | nil =>
    cases h
    cases ha
  | cons e rest ih =>
    obtain ⟨next, more, happened, ran, rfl⟩ := run_cons h
    rcases List.mem_append.mp ha with ha | ha
    · cases e with
      | call ctx op => exact ⟨[], ctx, op, rest, rfl, [], live, rfl, ha⟩
      | set setting => cases ha
      | setChainAndNetwork chain network => cases ha
      | outside change => cases ha
    · obtain ⟨earlier, ctx, op, later, rfl, reported, before, led, asked⟩ := ih ran ha
      refine ⟨e :: earlier, ctx, op, later, rfl, e.asked w live ++ reported, before, ?_, asked⟩
      rw [run, happened]
      simp only [led, Option.map_some]

end Event

/-! ## Sessions -/

namespace Session

variable {s t u : Session}

/-- To each of its clients, what a session goes through is a run. -/
def Runs (s t : Session) : Prop :=
  ∀ (place : Nat) (c : Client ScriptedExecutor), s.clients[place]? = some c →
    ∃ events asked c', Event.run .rehearsal ⟨c, s.world⟩ events = some (asked, ⟨c', t.world⟩) ∧
      t.clients[place]? = some c'

theorem Runs.trans (first : Runs s t) (second : Runs t u) : Runs s u := by
  intro place c there
  obtain ⟨events, asked, c', ran, there'⟩ := first place c there
  obtain ⟨events', asked', c'', ran', there''⟩ := second place c' there'
  exact ⟨events ++ events', asked ++ asked', c'', Event.run_append ran ran', there''⟩

/-- Where the clients are still as they were, everything happened outside of them. -/
theorem Runs.of_clients (same : ∀ (place : Nat) c, s.clients[place]? = some c →
    t.clients[place]? = some c) : Runs s t :=
  fun place c there => ⟨[.outside fun _ => t.world], [], c, rfl, same place c there⟩

theorem Runs.of_eq (same : t.clients = s.clients) : Runs s t :=
  .of_clients fun _ _ there => by rw [same]; exact there

/-- Where one client has gone through a run, everything happened outside of the others. -/
theorem Runs.of_putClient {h : Handle} {c c' : Client ScriptedExecutor} {world : World Stage}
    {events : List (Event ScriptedExecutor Stage)} {asked : List Asked}
    (found : s.clients[h.client]? = some c)
    (ran : Event.run .rehearsal ⟨c, s.world⟩ events = some (asked, ⟨c', world⟩)) :
    Runs s { s.putClient h c' with world } := by
  intro place d there
  by_cases mine : h.client = place
  · subst mine
    rw [found] at there
    cases there
    refine ⟨events, asked, c', ran, ?_⟩
    rw [putClient, List.getElem?_set_self' , found]
    rfl
  · refine ⟨[.outside fun _ => world], [], d, rfl, ?_⟩
    rw [putClient, List.getElem?_set_ne mine]
    exact there

theorem call_runs {h : Handle} {c : Client ScriptedExecutor} {op : Operation} {answer : Answer}
    (found : s.clients[h.client]? = some c) (called : s.call h c op = some (answer, t)) :
    Runs s t := by
  obtain ⟨⟨outcome, live⟩, came, same⟩ := Option.map_eq_some_iff.mp called
  cases same
  have cleared : (Event.outside fun world : World Stage => { world with state.log := [] }).after
      .rehearsal ⟨c, s.world⟩ = some ⟨c, { s.world with state.log := [] }⟩ := rfl
  have came' : (Event.call h.context op).after .rehearsal ⟨c, { s.world with state.log := [] }⟩ =
      some live := by
    rw [Event.after, came]
    rfl
  exact Runs.of_putClient found (Event.run_append (Event.run_one cleared) (Event.run_one came'))

theorem change_runs {h : Handle} {c : Client ScriptedExecutor}
    {outcome : Except Error (Client ScriptedExecutor)} (found : s.clients[h.client]? = some c)
    (e : Event ScriptedExecutor Stage) (changes : ∀ c', outcome = .ok c' →
      e.after .rehearsal ⟨c, s.world⟩ = some ⟨c', s.world⟩) :
    Runs s (s.change h outcome).2 := by
  cases outcome with
  | ok c' => exact Runs.of_putClient found (Event.run_one (changes c' rfl))
  | error e => exact Runs.of_eq rfl

theorem Alters.runs (h : s.Alters t) : Runs s t := by
  cases h with
  | nothing | cancelled name c named instant | slept nanos | waited c nanos | extended script
  | handled name h known => exact Runs.of_eq rfl
  | opened client name h named =>
    refine Runs.of_clients fun place c there => ?_
    rw [putHandle, List.getElem?_append_left (List.getElem?_eq_some_iff.mp there).1]
    exact there
  | set handle client found setting =>
    refine change_runs found (.set setting) fun c' changed => ?_
    rw [Event.after, changed]
  | setChainAndNetwork handle client found chain network =>
    refine change_runs found (.setChainAndNetwork chain network) fun c' changed => ?_
    rw [Event.after, changed]
  | called handle client found op answer t called => exact call_runs found called

theorem step_runs {step : Step} {answer : Answer} (h : s.step step = some (answer, t)) :
    Runs s t := by
  have turns := step_turns h
  cases step with
  | derive name parent how =>
    obtain ⟨p, -, rfl⟩ := turns
    exact Runs.of_eq rfl
  | _ => exact Alters.runs turns

/-- However many steps a session takes, through whichever handles, each of its clients goes through
a run, and so has recorded what the run tells. -/
theorem leads_run (h : Leads s t) : Runs s t := by
  induction h with
  | refl => exact Runs.of_eq rfl
  | step _ taken ih => exact ih.trans (step_runs taken)

end Session

/-! ## The record after a run -/

/-- The executor of a client answered so when it was given a request: if it retries what another
executor does, a response is that of the last attempt. -/
def FinallyAnswered (w : Wiring ε σ) (slot : Slot ε) (ctx : Context) (a : Asked) : Prop :=
  ∃ world, (w.executor slot ctx a.request world).map (·.1) = a.reply ∧
    ∀ (inner : Executor σ) (policy : RetryPolicy) (random : Nat → Nat) (response : Response),
      w.executor slot = inner.retrying policy random → a.reply = some (.ok response) →
      ∃ (after : World σ) (front : List Attempt) (last : Attempt),
        inner.watched.retrying policy random ctx a.request (world.watched []) =
          some (.ok response, after.watched (front ++ [last])) ∧
        last.outcome = .ok response

theorem Plan.asked_answered (w : Wiring ε σ) (ctx : Context) (p : Plan α) (live : Live ε σ)
    {a : Asked} (ha : a ∈ (p.course w ctx live).asked) :
    FinallyAnswered w live.client.slot ctx a := by
  obtain ⟨world, answered⟩ := p.asked_reply w ctx live a ha
  have buffered := Client.request_buffered (Query.handed_ok (p.asked_handed w ctx live a ha)).2
  refine ⟨world, answered, fun inner policy random response retried reply => ?_⟩
  rw [retried, Executor.retrying_eq_retryFrom buffered, reply] at answered
  obtain ⟨⟨outcome, after⟩, ran, same⟩ := Option.map_eq_some_iff.mp answered
  cases same
  obtain ⟨front, last, seen, final⟩ := Executor.retryFrom_last ran
  refine ⟨after, front, last, ?_, final⟩
  rw [Executor.retrying_eq_retryFrom buffered]
  exact seen

/-- After any run of a client the record is blank if nothing has been handed to an executor, and
otherwise tells of what was handed over last, whatever became of the answer behind it. What hands
over nothing leaves the record alone, and so does any call whose requirements are not met. -/
theorem Client.last_recorded (w : Wiring ε σ) (settings : List (Setting ε)) (c : Client ε)
    (world : World σ) (events : List (Event ε σ)) (asked : List Asked) (after : Live ε σ)
    (made : Client.new w.connect settings = .ok c)
    (ran : Event.run w ⟨c, world⟩ events = some (asked, after)) :
    (asked = [] → after.client.last = {}) ∧
    (∀ front a, asked = front ++ [a] → after.client.last.Tells a ∧
      ∃ earlier ctx op later reported before, events = earlier ++ .call ctx op :: later ∧
        Event.run w ⟨c, world⟩ earlier = some (reported, before) ∧
        a ∈ (op.course w ctx before).asked ∧
        FinallyAnswered w before.client.slot ctx a) ∧
    (∀ more later, Event.run w after more = some ([], later) →
      later.client.last = after.client.last) ∧
    ∀ (ctx : Context) (op : Operation), ¬ Met (op.requirements after.client.options) →
      ∃ e, op.call w ctx after = some (.error e, after) := by
  have recorded : after.client.last = LastRequest.behind {} asked := by
    rw [Event.run_last ran, Client.new_last made]
  refine ⟨?_, ?_, ?_, ?_⟩
  · rintro rfl
    exact recorded
  · rintro front a rfl
    obtain ⟨earlier, ctx, op, later, split, reported, before, led, asked⟩ :=
      Event.run_handed ran (a := a) (by simp)
    have last : after.client.last = a.last := by
      rw [recorded, LastRequest.behind, List.getLast?_concat]
      rfl
    refine ⟨?_, earlier, ctx, op, later, reported, before, split, led, asked,
      op.plan.asked_answered w ctx before asked⟩
    rw [last]
    exact Asked.last_tells (op.plan.asked_handed w ctx before a asked)
  · intro more later ran
    exact Event.run_last ran
  · intro ctx op unmet
    rcases op.course_gated w ctx after with ⟨met, -⟩ | ⟨idle, e, -, failed⟩
    · exact absurd met unmet
    · refine ⟨e, ?_⟩
      rw [← op.course_ended, Course.ended, failed]
      exact congrArg (fun live => some (Except.error e, live))
        (op.plan.course_idle w ctx after idle)

/-- A server that has trouble at first, behind the managed executor of a client. -/
def troubled : Wiring Unit Nat where
  supplied _ := .flaky
  managed _ := .flaky
  random _ := 0
  connect _ := .ok ()

/-- A call that two more attempts save and that then fails to be decoded, between a change of the
chain and a call that is refused. -/
def troubles : List (Event Unit Nat) :=
  [.setChainAndNetwork .btc .main, .call ⟨⟨[0]⟩, none⟩ (.query (.address (.info "1A"))),
    .outside id, .call ⟨⟨[0]⟩, none⟩ (.allBalances [])]

theorem Client.last_recorded_troubled :
    ∃ c a after, Client.new troubled.connect [] = .ok c ∧
      Event.run troubled ⟨c, .start, 0⟩ troubles = some ([a], after) ∧
      after.client.last.Tells a ∧ after.client.last.status = 200 := by
  obtain ⟨c, made, a, after, ran, reply⟩ : ∃ c, Client.new troubled.connect [] = .ok c ∧
      ∃ a after, Event.run troubled ⟨c, .start, 0⟩ troubles = some ([a], after) ∧
        a.reply = some (.ok ⟨200, .empty, .complete⟩) := ⟨_, rfl, _, _, rfl, rfl⟩
  obtain ⟨-, told, -, -⟩ :=
    Client.last_recorded troubled [] c ⟨.start, 0⟩ troubles [a] after made ran
  have tells := (told [] a rfl).1
  exact ⟨c, a, after, made, ran, tells, tells.answered _ reply⟩

end ExplorerClient
