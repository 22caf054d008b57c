import ExplorerClient.Proofs.Replayed
import Mathlib.Data.List.Forall2

/-!
# Requests in the log

Watching the executors of a wiring changes nothing of what they do, retried or not. So an operation
comes to the same end under a watched wiring, and the log shows what went out for it: one attempt at
each request that was handed over, in order, or several at the same request where it was retried.

Results:
* `Wiring.executor_watched`: what the executor of a client adds to a log.
* `Plan.course_watched`: what a plan adds to it.
* `Operation.logged`: what an operation adds to it, if it comes to an end.
-/

namespace ExplorerClient

variable {ε σ α β : Type}

/-! ## What the executor of a client adds to a log -/

/-- The same wiring, with a list kept of the attempts that its executors make. -/
def Wiring.watched (w : Wiring ε σ) : Wiring ε (Watched σ) where
  supplied executor := (w.supplied executor).watched
  managed config := (w.managed config).watched
  random := w.random
  connect := w.connect

/-- What a log shows of a request that was handed over, if it was answered. -/
structure Asked.Shown (slot : Slot ε) (a : Asked) (block : List Attempt) : Prop where
  attempts : ∃ outcome, a.reply = some outcome ∧ AttemptsAt a.request outcome block
  /-- Where nothing is retried there is one attempt, and its outcome is the answer. -/
  once : slot.retryLayer = none →
    block.map (fun t => (t.request, some t.outcome)) = [(a.request, a.reply)]

/-- Watching changes nothing of what an executor does with a request that is no stream. -/
theorem Wiring.executor_watched (w : Wiring ε σ) (slot : Slot ε) (ctx : Context)
    {request : Request} (buffered : ∀ bytes, request.body ≠ some (.stream bytes))
    (world : World σ) (seen : List Attempt) :
    ∃ block, w.watched.executor slot ctx request (world.watched seen) =
        (w.executor slot ctx request world).map (fun (outcome, after) =>
          (outcome, after.watched (seen ++ block))) ∧
      ∀ outcome after, w.executor slot ctx request world = some (outcome, after) →
        ∀ query url, Asked.Shown slot ⟨query, url, request, some outcome⟩ block := by
  have direct : ∀ inner : Executor σ, ∃ block,
      inner.watched ctx request (world.watched seen) =
        (inner ctx request world).map (fun (outcome, after) =>
          (outcome, after.watched (seen ++ block))) ∧
      ∀ outcome after, inner ctx request world = some (outcome, after) →
        ∀ query url, Asked.Shown slot ⟨query, url, request, some outcome⟩ block := by
    intro inner
    cases asked : inner ctx request world with
    | none => exact ⟨[], Executor.watched_silent asked seen, fun _ _ never => by cases never⟩
    | some answered =>
      refine ⟨[_], Executor.watched_answered asked seen, ?_⟩
      rintro outcome after ⟨⟩ query url
      exact ⟨⟨outcome, rfl, .single rfl fun _ same => same⟩, fun _ => rfl⟩
  cases slot with
  | supplied executor => exact direct (w.supplied executor)
  | managed config =>
    unfold Wiring.executor
    by_cases unlayered : config.retry.count = 0
    · simp only [unlayered, if_true]
      exact direct (w.managed config)
    · simp only [unlayered, if_false, Executor.retrying_eq_retryFrom buffered]
      refine ⟨_, Executor.retryFrom_watched _ _ _ _, fun outcome after h query url =>
        ⟨⟨outcome, rfl, Executor.made_attempts h⟩, fun none_there => ?_⟩⟩
      rw [Slot.retryLayer, if_neg unlayered] at none_there
      cases none_there

/-! ## What plans add to a log -/

/-- The client in a world as seen by someone who has watched some attempts. -/
def Live.watched (live : Live ε σ) (attempts : List Attempt) : Live ε (Watched σ) :=
  ⟨live.client, live.world.watched attempts⟩

/-- The requests of a course that were answered. -/
def Course.answered (c : Course ε σ α) : List Asked := c.asked.filter (·.reply.isSome)

/-- The course of the same under a watched wiring: the log goes on with `blocks`, one for each
request that was answered. -/
structure Course.Watches (c : Course ε σ α) (slot : Slot ε) (seen : List Attempt)
    (blocks : List (List Attempt)) (d : Course ε (Watched σ) α) : Prop where
  asked : d.asked = c.asked
  answer : d.answer = c.answer
  live : d.live = c.live.watched (seen ++ blocks.flatten)
  shown : List.Forall₂ (Asked.Shown slot) c.answered blocks

theorem Course.Watches.andThen {first : Course ε σ α} {next : α → Live ε σ → Course ε σ β}
    {watched : Course ε (Watched σ) α} {later : α → Live ε (Watched σ) → Course ε (Watched σ) β}
    {slot : Slot ε} {seen : List Attempt} {blocks : List (List Attempt)}
    (front : first.Watches slot seen blocks watched)
    (behind : ∀ value, ∃ more, (next value first.live).Watches slot (seen ++ blocks.flatten) more
      (later value watched.live)) :
    ∃ all, (first.andThen next).Watches slot seen all (watched.andThen later) := by
  unfold Course.andThen
  rw [front.answer]
  cases answered : first.answer with
  | none => exact ⟨blocks, front.asked, rfl, front.live, front.shown⟩
  | some answer =>
    cases answer with
    | error e => exact ⟨blocks, front.asked, rfl, front.live, front.shown⟩
    | ok value =>
      obtain ⟨more, rest⟩ := behind value
      refine ⟨blocks ++ more, ?_, rest.answer, ?_, ?_⟩
      · simp only [front.asked, rest.asked]
      · simp only [rest.live, List.flatten_append, List.append_assoc]
      · simp only [Course.answered, List.filter_append]
        exact List.rel_append front.shown rest.shown

theorem Query.course_watched (w : Wiring ε σ) (ctx : Context) (q : Query) (live : Live ε σ)
    (seen : List Attempt) : ∃ blocks, (q.course w ctx live).Watches live.client.slot seen blocks
      (q.course w.watched ctx (live.watched seen)) := by
  cases handed : q.handed live.client with
  | error e =>
    have unseen : q.course w.watched ctx (live.watched seen) = ⟨[], some (.error e), _⟩ :=
      course_refused handed
    refine ⟨[], ?_⟩
    rw [course_refused handed, unseen]
    exact ⟨rfl, rfl, by simp, .nil⟩
  | ok made =>
    obtain ⟨url, request⟩ := made
    have buffered := Client.request_buffered (handed_ok handed).2
    obtain ⟨block, seeing, shown⟩ :=
      w.executor_watched live.client.slot ctx buffered live.world seen
    cases asked : w.executor live.client.slot ctx request live.world with
    | none =>
      rw [asked] at seeing
      have unseen : q.course w.watched ctx (live.watched seen) = ⟨_, none, live.watched seen⟩ :=
        course_unanswered handed seeing
      refine ⟨[], ?_⟩
      rw [course_unanswered handed asked, unseen]
      exact ⟨rfl, rfl, by simp, .nil⟩
    | some answered =>
      obtain ⟨outcome, world⟩ := answered
      rw [asked] at seeing
      refine ⟨[block], ?_⟩
      have log : seen ++ [block].flatten = seen ++ block := by simp
      have shows : List.Forall₂ (Asked.Shown live.client.slot)
          [⟨q, url, request, some outcome⟩] [block] :=
        .cons (shown outcome world asked q url) .nil
      cases outcome with
      | error e =>
        have watched : q.course w.watched ctx (live.watched seen) = ⟨_, _, _⟩ :=
          course_failed handed seeing
        rw [course_failed handed asked, watched]
        exact ⟨rfl, rfl, by rw [log]; rfl, shows⟩
      | ok response =>
        cases body : response.readBody ctx world.time with
        | none =>
          have watched : q.course w.watched ctx (live.watched seen) = ⟨_, _, _⟩ :=
            course_reading handed seeing body
          rw [course_reading handed asked body, watched]
          exact ⟨rfl, rfl, by rw [log]; rfl, shows⟩
        | some read =>
          have watched : q.course w.watched ctx (live.watched seen) = ⟨_, _, _⟩ :=
            course_read handed seeing body
          rw [course_read handed asked body, watched]
          exact ⟨rfl, rfl, by rw [log]; rfl, shows⟩

/-- A plan asks for the same and comes to the same under a watched wiring, and the log goes on with
attempts at the requests that were answered, in order. -/
theorem Plan.course_watched (w : Wiring ε σ) (ctx : Context) (p : Plan α) (live : Live ε σ)
    (seen : List Attempt) : ∃ blocks, (p.course w ctx live).Watches live.client.slot seen blocks
      (p.course w.watched ctx (live.watched seen)) := by
  induction p generalizing live seen with
  | done answer => exact ⟨[], rfl, rfl, by simp [course], .nil⟩
  | ask query => exact query.course_watched w ctx live seen
  | andThen first next first_ih next_ih =>
    obtain ⟨blocks, front⟩ := first_ih live seen
    refine front.andThen fun value => ?_
    obtain ⟨more, rest⟩ := next_ih value (first.course w ctx live).live (seen ++ blocks.flatten)
    rw [course_client] at rest
    rw [front.live]
    exact ⟨more, rest⟩

theorem Query.answered_of_ended (w : Wiring ε σ) (ctx : Context) (q : Query) (live : Live ε σ)
    (ends : (q.course w ctx live).answer.isSome) :
    (q.course w ctx live).answered = (q.course w ctx live).asked := by
  cases q.fate w ctx live with
  | unanswered url request _ _ h =>
    rw [h] at ends
    cases ends
  | refused e _ h | failed url request e world _ _ h | reading url request response world _ _ h
  | read url request response world bytes time _ _ _ h =>
    rw [h]
    rfl

/-- If a plan comes to an end, all its requests have been answered. -/
theorem Plan.answered_of_ended (w : Wiring ε σ) (ctx : Context) (p : Plan α) (live : Live ε σ)
    (ends : (p.course w ctx live).answer.isSome) :
    (p.course w ctx live).answered = (p.course w ctx live).asked := by
  induction p generalizing live with
  | done answer => rfl
  | ask query => exact query.answered_of_ended w ctx live ends
  | andThen first next first_ih next_ih =>
    rw [course, Course.andThen] at ends ⊢
    split at ends
    · cases ends
    · rename_i e failed
      exact first_ih live (by rw [failed]; rfl)
    · rename_i value found
      have front := first_ih live (by rw [found]; rfl)
      have behind := next_ih value _ ends
      unfold Course.answered at front behind ⊢
      rw [List.filter_append, front, behind]

/-! ## What operations add to a log -/

/-- Where nothing is retried, the log shows the requests and their answers one to one. -/
theorem requests_of_shown {slot : Slot ε} (direct : slot.retryLayer = none) {asked : List Asked}
    {blocks : List (List Attempt)} (shown : List.Forall₂ (Asked.Shown slot) asked blocks) :
    blocks.flatten.map (fun t => (t.request, some t.outcome)) =
      asked.map fun a => (a.request, a.reply) := by
  induction shown with
  | nil => rfl
  | cons first _ ih =>
    rw [List.flatten_cons, List.map_append, first.once direct, ih]
    rfl

/-- What the log of a watched wiring shows of an operation: it had `seen` before, and goes on with
`new`. -/
structure Operation.Logged (w : Wiring ε σ) (ctx : Context) (op : Operation) (live : Live ε σ)
    (seen new : List Attempt) : Prop where
  /-- Watching changes nothing of the call but the log. -/
  call : op.call w.watched ctx (live.watched seen) =
    (op.call w ctx live).map fun (answer, after) => (answer, after.watched (seen ++ new))
  /-- Where nothing is retried, each request that is handed over is in the log once, in order, with
  its answer, and nothing else is. -/
  requests : (op.call w ctx live).isSome → live.client.slot.retryLayer = none →
    new.map (fun t => (t.request, some t.outcome)) =
      (op.course w ctx live).asked.map fun a => (a.request, a.reply)
  /-- In any case each request that is handed over is there in order, possibly attempted several
  times, and nothing else is. -/
  attempts : (op.call w ctx live).isSome → ∃ blocks, new = blocks.flatten ∧
    List.Forall₂ (Asked.Shown live.client.slot) (op.course w ctx live).asked blocks

theorem Operation.logged (w : Wiring ε σ) (ctx : Context) (op : Operation) (live : Live ε σ)
    (seen : List Attempt) : ∃ new, op.Logged w ctx live seen new := by
  obtain ⟨blocks, watches⟩ := op.plan.course_watched w ctx live seen
  have shown : (op.call w ctx live).isSome →
      List.Forall₂ (Asked.Shown live.client.slot) (op.course w ctx live).asked blocks := by
    intro ends
    rw [← op.course_ended, Course.ended, Option.isSome_map] at ends
    have answered := op.plan.answered_of_ended w ctx live ends
    unfold course
    rw [← answered]
    exact watches.shown
  refine ⟨blocks.flatten, ?_, fun ends direct => requests_of_shown direct (shown ends),
    fun ends => ⟨blocks, rfl, shown ends⟩⟩
  rw [← op.course_ended, ← op.course_ended, Course.ended, Course.ended, Option.map_map]
  unfold course
  rw [watches.answer, watches.live]
  rfl

end ExplorerClient
