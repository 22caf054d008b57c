import ExplorerClient.Proofs.Course
import ExplorerClient.Proofs.Severed

/-!
# Calls that are cancelled

An operation under a context that ends is the same operation under one that lasts, up to the instant
at which the context ends. There it fails with the error of the context, and its last request is the
one that was being carried out.

Results:
* `Plan.course_before`: what is over before the context ends is not changed by it.
* `Plan.course_cutShort`: everything else is cut short at that instant.
* `Operation.cancelled`: both for the operations of a client with a scripted executor.
-/

namespace ExplorerClient

variable {ε α β : Type}

/-! ## Courses that are cut short -/

namespace Course

/-- A body that never ends is being read at the instant. -/
def Reading (whole : Course ε Stage α) (instant : Nat) : Prop :=
  whole.answer = none ∧ whole.live.world.time.now < instant

/-- The course `cut` is the course `whole` up to an instant at which its context ends. -/
structure CutShort (instant : Nat) (ended : Error) (start : World Stage)
    (whole cut : Course ε Stage α) : Prop where
  answer : cut.answer = some (.error ended)
  world : World.Severed instant start whole.live.world cut.live.world
  /-- If a body is being read then, its response has come in. -/
  reading : whole.Reading instant → cut.asked = whole.asked ∧
    ∃ a response, whole.asked.getLast? = some a ∧ a.reply = some (.ok response) ∧
      response.bodyEnd = .pending
  /-- If not, one of the requests is still waiting for its answer. -/
  waiting : ¬ whole.Reading instant → ∃ front a back, whole.asked = front ++ a :: back ∧
    cut.asked = front ++ [{ a with reply := some (.error ended) }]

variable {instant : Nat} {ended : Error} {start : World Stage}
  {whole cut : Course ε Stage α} {next next' : α → Live ε Stage → Course ε Stage β}

/-- What is cut short does not go on. -/
theorem CutShort.andThen (h : CutShort instant ended start whole cut)
    (late : whole.answer = none ∨ instant ≤ whole.live.world.time.now)
    (on : ∀ value, whole.live.world.Onward (next value whole.live).live.world) :
    CutShort instant ended start (whole.andThen next) (cut.andThen next') := by
  have stopped : cut.andThen next' = ⟨cut.asked, some (.error ended), cut.live⟩ := by
    rw [Course.andThen, h.answer]
  rw [stopped]
  unfold Course.andThen
  split
  · rename_i hung
    refine ⟨rfl, h.world, fun reading => h.reading ⟨hung, reading.2⟩, fun still => h.waiting ?_⟩
    exact fun reading => still ⟨rfl, reading.2⟩
  · rename_i e failed
    refine ⟨rfl, h.world, ?_, fun _ => h.waiting ?_⟩
    · intro reading
      cases reading.1
    · intro reading
      have hung := reading.1
      rw [failed] at hung
      cases hung
  · rename_i value found
    have past : instant ≤ whole.live.world.time.now :=
      late.resolve_left (by rw [found]; exact Option.some_ne_none _)
    have later := (on value).later
    refine ⟨rfl, h.world.onward past (on value), ?_, ?_⟩
    · intro reading
      have : (next value whole.live).live.world.time.now < instant := reading.2
      omega
    · intro _
      have answered : ¬ whole.Reading instant := by
        intro reading
        rw [reading.1] at found
        cases found
      obtain ⟨front, a, back, asked, kept⟩ := h.waiting answered
      refine ⟨front, a, back ++ (next value whole.live).asked, ?_, kept⟩
      show whole.asked ++ _ = _
      rw [asked, List.append_assoc]
      rfl

/-- What comes after the first part of a course is cut short as it is on its own. -/
theorem CutShort.since {first : Course ε Stage α} {value : α}
    (found : first.answer = some (.ok value)) (on : start.Onward first.live.world)
    (early : first.live.world.time.now < instant)
    (h : CutShort instant ended first.live.world (next value first.live)
      (next' value first.live)) :
    CutShort instant ended start (first.andThen next) (first.andThen next') := by
  simp only [Course.andThen, found]
  refine ⟨h.answer, on.severed early h.world, ?_, ?_⟩
  · intro reading
    obtain ⟨kept, a, response, last, reply, pending⟩ := h.reading reading
    refine ⟨by rw [kept], a, response, ?_, reply, pending⟩
    rw [List.getLast?_append, last]
    rfl
  · intro waiting
    obtain ⟨front, a, back, asked, kept⟩ := h.waiting waiting
    exact ⟨first.asked ++ front, a, back, by rw [asked, List.append_assoc],
      by rw [kept, List.append_assoc]⟩

end Course

/-! ## Queries -/

namespace Query

variable {w : Wiring ε Stage} {q : Query} {live : Live ε Stage} {forever ctx : Context}
  {instant : Nat} {ended : Error} {url : String} {request : Request} {world : World Stage}

/-- The course of a query that an executor answers under a context that lasts. -/
theorem course_lasting {outcome : Except Error Response} (lasting : world.Lasting forever)
    (handed : q.handed live.client = .ok (url, request))
    (answered : w.executor live.client.slot forever request live.world = some (outcome, world)) :
    (q.course w forever live).asked = [⟨q, url, request, some outcome⟩] ∧
      (q.course w forever live).live.world = world ∧
      ((q.course w forever live).answer = none ↔
        ∃ response, outcome = .ok response ∧ response.bodyEnd = .pending) := by
  cases outcome with
  | error e =>
    rw [course_failed handed answered]
    exact ⟨rfl, rfl, by simp⟩
  | ok response =>
    have read := Response.readBody_of_live (r := response) (Timeline.err?_of_lasting lasting.lasts)
    rw [lasting.lasts] at read
    cases ends : response.bodyEnd with
    | pending =>
      rw [ends] at read
      rw [course_reading handed answered read]
      exact ⟨rfl, rfl, by simp [ends]⟩
    | broken | complete =>
      rw [ends] at read
      rw [course_read handed answered read]
      exact ⟨rfl, rfl, by simp [ends]⟩

theorem course_before (cuts : (w.executor live.client.slot).Cuts forever ctx instant ended)
    (lasting : live.world.Lasting forever) (ending : live.world.Ending ctx instant ended)
    (ends : (q.course w forever live).answer ≠ none)
    (early : (q.course w forever live).live.world.time.now < instant) :
    q.course w ctx live = q.course w forever live := by
  cases handed : q.handed live.client with
  | error e => rw [course_refused handed, course_refused handed]
  | ok made =>
    obtain ⟨outcome, v, answered, on⟩ := cuts.answers made.2 live.world lasting
    obtain ⟨-, here, hangs⟩ := course_lasting (on.lasting lasting) handed answered
    rw [here] at early
    have answered' := cuts.before made.2 live.world outcome v lasting ending answered early
    cases outcome with
    | error e => rw [course_failed handed answered, course_failed handed answered']
    | ok response =>
      have whole : response.bodyEnd ≠ .pending := fun pending =>
        ends (hangs.mpr ⟨response, rfl, pending⟩)
      have read := Response.readBody_of_live (r := response)
        (Timeline.err?_of_lasting (on.lasting lasting).lasts)
      have read' := Response.readBody_of_live (r := response)
        (Timeline.err?_of_later (on.ending ending early).ends early)
      cases ended : response.bodyEnd with
      | pending => exact absurd ended whole
      | broken | complete =>
        rw [ended] at read read'
        rw [course_read handed answered read, course_read handed answered' read']

theorem course_cutShort (cuts : (w.executor live.client.slot).Cuts forever ctx instant ended)
    (lasting : live.world.Lasting forever) (ending : live.world.Ending ctx instant ended)
    (late : (q.course w forever live).answer = none ∨
      instant ≤ (q.course w forever live).live.world.time.now) :
    Course.CutShort instant ended live.world (q.course w forever live) (q.course w ctx live) := by
  have context := Timeline.ending?_isContext ending.ends
  cases handed : q.handed live.client with
  | error e =>
    rw [course_refused handed] at late
    rcases late with h | h
    · cases h
    · exact absurd ending.early (Nat.not_lt_of_le h)
  | ok made =>
    obtain ⟨url, request⟩ := made
    obtain ⟨outcome, v, answered, on⟩ := cuts.answers request live.world lasting
    obtain ⟨asked, here, hangs⟩ := course_lasting (on.lasting lasting) handed answered
    by_cases early : v.time.now < instant
    · -- the executor has answered in time, so it is the body that is waited for
      have answered' := cuts.before request live.world outcome v lasting ending answered early
      have hung : (q.course w forever live).answer = none := by
        rcases late with h | h
        · exact h
        · rw [here] at h
          omega
      obtain ⟨response, rfl, pending⟩ := hangs.mp hung
      have read := Response.readBody_of_live (r := response)
        (Timeline.err?_of_later (on.ending ending early).ends early)
      rw [pending, (on.ending ending early).ends] at read
      rw [course_read handed answered' read]
      refine ⟨?_, ?_, ?_, ?_⟩
      · exact congrArg some (Reply.interpret_context context)
      · rw [here]
        exact on.severed early (World.severed_now v 0 instant)
      · intro _
        rw [asked]
        exact ⟨rfl, _, response, rfl, rfl, pending⟩
      · intro still
        exact absurd ⟨hung, by rw [here]; exact early⟩ still
    · obtain ⟨cut, stopped, severed⟩ := cuts.severed request live.world outcome v lasting ending
        answered (Nat.le_of_not_lt early)
      rw [course_failed handed stopped]
      refine ⟨?_, ?_, ?_, ?_⟩
      · exact congrArg some (Reply.interpret_context context)
      · rw [here]
        exact severed
      · intro reading
        have := reading.2
        rw [here] at this
        exact absurd this early
      · intro _
        exact ⟨[], ⟨q, url, request, some outcome⟩, [], asked, rfl⟩

end Query

/-! ## Plans -/

namespace Plan

variable {w : Wiring ε Stage} {live : Live ε Stage} {c forever ctx : Context} {instant : Nat}
  {ended : Error}

theorem course_slot (p : Plan α) : (p.course w c live).live.client.slot = live.client.slot := by
  rw [course_client]

theorem course_onward {p : Plan α}
    (cuts : (w.executor live.client.slot).Cuts forever ctx instant ended)
    (lasting : live.world.Lasting forever) :
    live.world.Onward (p.course w forever live).live.world := by
  refine p.course_world w forever live (R := fun u v => u.Lasting forever → u.Onward v)
    (fun u _ => .refl u) (fun first second lasting => ?_) ?_ ?_ lasting
  · exact (first lasting).trans (second ((first lasting).lasting lasting))
  · intro request u outcome v answered lasting
    obtain ⟨_, _, same, on⟩ := cuts.answers request u lasting
    cases answered.symm.trans same
    exact on
  · intro response u bytes time read lasting
    rw [Response.readBody_of_live (Timeline.err?_of_lasting lasting.lasts), lasting.lasts] at read
    cases ends : response.bodyEnd with
    | pending =>
      rw [ends] at read
      cases read
    | broken | complete =>
      rw [ends] at read
      cases read
      exact .refl u

theorem course_before {p : Plan α}
    (cuts : (w.executor live.client.slot).Cuts forever ctx instant ended)
    (lasting : live.world.Lasting forever) (ending : live.world.Ending ctx instant ended)
    (ends : (p.course w forever live).answer ≠ none)
    (early : (p.course w forever live).live.world.time.now < instant) :
    p.course w ctx live = p.course w forever live := by
  induction p generalizing live with
  | done answer => rfl
  | ask query => exact Query.course_before cuts lasting ending ends early
  | andThen first next first_ih next_ih =>
    have on : live.world.Onward (first.course w forever live).live.world :=
      course_onward cuts lasting
    rw [course] at ends early ⊢
    rw [course]
    cases outcome : (first.course w forever live).answer with
    | none => simp [Course.andThen, outcome] at ends
    | some result =>
      cases result with
      | error e =>
        simp only [Course.andThen, outcome] at early
        rw [first_ih cuts lasting ending (by simp [outcome]) early]
        simp only [Course.andThen, outcome]
      | ok value =>
        simp only [Course.andThen, outcome] at ends early
        have cuts' : (w.executor (first.course w forever live).live.client.slot).Cuts forever ctx
            instant ended := by
          rw [course_slot]
          exact cuts
        have on' : (first.course w forever live).live.world.Onward
            ((next value).course w forever (first.course w forever live).live).live.world :=
          course_onward cuts' (on.lasting lasting)
        have first_early := Nat.lt_of_le_of_lt on'.later early
        rw [first_ih cuts lasting ending (by simp [outcome]) first_early]
        simp only [Course.andThen, outcome]
        rw [next_ih value cuts' (on.lasting lasting) (on.ending ending first_early) ends early]

theorem course_cutShort {p : Plan α}
    (cuts : (w.executor live.client.slot).Cuts forever ctx instant ended)
    (lasting : live.world.Lasting forever) (ending : live.world.Ending ctx instant ended)
    (late : (p.course w forever live).answer = none ∨
      instant ≤ (p.course w forever live).live.world.time.now) :
    Course.CutShort instant ended live.world (p.course w forever live) (p.course w ctx live) := by
  induction p generalizing live with
  | done answer =>
    rcases late with h | h
    · cases h
    · exact absurd ending.early (Nat.not_lt_of_le h)
  | ask query => exact Query.course_cutShort cuts lasting ending late
  | andThen first next first_ih next_ih =>
    have on : live.world.Onward (first.course w forever live).live.world :=
      course_onward cuts lasting
    have cuts' : (w.executor (first.course w forever live).live.client.slot).Cuts forever ctx
        instant ended := by
      rw [course_slot]
      exact cuts
    rw [course] at late ⊢
    rw [course]
    by_cases past : (first.course w forever live).answer = none ∨
        instant ≤ (first.course w forever live).live.world.time.now
    · exact (first_ih cuts lasting ending past).andThen past fun value =>
        course_onward cuts' (on.lasting lasting)
    · obtain ⟨ends, early⟩ := not_or.mp past
      have early := Nat.lt_of_not_le early
      rw [course_before cuts lasting ending ends early]
      cases outcome : (first.course w forever live).answer with
      | none => exact absurd outcome ends
      | some result =>
        cases result with
        | error e =>
          simp only [Course.andThen, outcome] at late
          rcases late with h | h
          · cases h
          · exact absurd early (Nat.not_lt_of_le h)
        | ok value =>
          simp only [Course.andThen, outcome] at late
          exact Course.CutShort.since outcome on early
            (next_ih value cuts' (on.lasting lasting) (on.ending ending early) late)

end Plan

/-! ## Operations -/

/-- An operation of a client with a scripted executor, which may retry, under a context that ends at
an instant to come. If under a context that lasts it is over before, the two do not differ.
Otherwise it fails at that instant for the end of its context, having made the requests that it
makes before then, and its last request is recorded without a status unless it is the body of its
response that was being read. -/
theorem Operation.cancelled (op : Operation) (e : ScriptedExecutor)
    (live : Live ScriptedExecutor Stage) (forever ctx : Context) (instant : Nat) (ended : Error)
    (scripted : live.client.slot = .supplied e) (lasting : live.world.Lasting forever)
    (ending : live.world.Ending ctx instant ended) :
    (∀ answer after, op.call .rehearsal forever live = some (answer, after) →
      after.world.time.now < instant → op.call .rehearsal ctx live = some (answer, after)) ∧
    ((∀ answer after, op.call .rehearsal forever live = some (answer, after) →
        instant ≤ after.world.time.now) →
      let whole := op.course .rehearsal forever live
      let cut := op.course .rehearsal ctx live
      op.call .rehearsal ctx live = some (.error ended, cut.live) ∧
      cut.live.world.time.now = instant ∧
      (∃ sent, whole.live.world.state.log = sent ++ live.world.state.log ∧
        cut.live.world.state.log =
          (sent.filter fun s => s.instant < instant) ++ live.world.state.log) ∧
      (whole.Reading instant → cut.asked = whole.asked ∧ ∃ a response,
        whole.asked.getLast? = some a ∧ a.reply = some (.ok response) ∧
        response.bodyEnd = .pending ∧
        cut.live.client.last = { a.last with status := response.status }) ∧
      (¬ whole.Reading instant → ∃ front a back, whole.asked = front ++ a :: back ∧
        cut.asked = front ++ [{ a with reply := some (.error ended) }] ∧
        cut.live.client.last = { a.last with status := 0 })) := by
  have cuts : (Wiring.rehearsal.executor live.client.slot).Cuts forever ctx instant ended := by
    rw [scripted]
    exact Wiring.rehearsal_cuts e forever ctx instant ended
  simp only [← op.course_ended]
  constructor
  · intro answer after h early
    obtain ⟨result, answered, h⟩ := Option.map_eq_some_iff.mp h
    cases h
    have same : op.course .rehearsal ctx live = op.course .rehearsal forever live :=
      Plan.course_before cuts lasting ending (by rw [← Operation.course, answered]; simp) early
    rw [same, Course.ended, answered]
    rfl
  · intro late
    have past : (op.course .rehearsal forever live).answer = none ∨
        instant ≤ (op.course .rehearsal forever live).live.world.time.now := by
      cases answered : (op.course .rehearsal forever live).answer with
      | none => exact Or.inl rfl
      | some answer =>
        refine Or.inr (late answer _ ?_)
        rw [Course.ended, answered]
        rfl
    have short : Course.CutShort instant ended live.world (op.course .rehearsal forever live)
        (op.course .rehearsal ctx live) := Plan.course_cutShort cuts lasting ending past
    have recorded := Plan.last_course .rehearsal ctx op.plan live
      (by rw [← Operation.course, short.answer]; rfl)
    rw [← Operation.course] at recorded
    refine ⟨?_, short.world.stops, short.world.log, ?_, ?_⟩
    · rw [Course.ended, short.answer]
      rfl
    · intro reading
      obtain ⟨same, a, response, last, reply, pending⟩ := short.reading reading
      refine ⟨same, a, response, last, reply, pending, ?_⟩
      rw [recorded, same, last, ← show a.status = response.status by rw [Asked.status, reply]]
      rfl
    · intro waiting
      obtain ⟨front, a, back, asked, kept⟩ := short.waiting waiting
      refine ⟨front, a, back, asked, kept, ?_⟩
      rw [recorded, kept, List.getLast?_concat]
      rfl

/-- A client that asks again a few times. -/
def patient : Client ScriptedExecutor where
  options := {}
  backoff := .standard
  dialer := {}
  pool := {}
  slot := .supplied ⟨"x", some ⟨.standard, 3⟩⟩

/-- A world in which a request fails after one millisecond and is answered after ten more. -/
def hesitant : World Stage where
  time := .start
  state := { script := [
    { delay := some 1000000, outcome := .fail (.transport none) },
    { delay := some 10000000, outcome := .respond ⟨200, .empty, .complete⟩ }] }

theorem Operation.cancelled_patient :
    ∃ after, (Operation.query (.network .health)).call .rehearsal ⟨⟨[2, 1]⟩, some 5000000⟩
        ⟨patient, hesitant⟩ = some (.error .deadlineExceeded, after) ∧
      after.world.time.now = 5000000 ∧
      after.world.state.log.map (·.instant) = [3000000, 0] ∧
      after.client.last.status = 0 := by
  have spared : ∀ c, hesitant.state.Spares c := by
    intro c cue h name cancels
    have : ∀ cue ∈ hesitant.state.script, cue.cancel = none := by decide +kernel
    rw [this cue h] at cancels
    cases cancels
  have run : ((Operation.query (.network .health)).call .rehearsal ⟨⟨[1]⟩, none⟩
      ⟨patient, hesitant⟩).map (·.2.world.time.now) = some 13000000 := by decide +kernel
  obtain ⟨-, cut⟩ := Operation.cancelled (.query (.network .health)) ⟨"x", some ⟨.standard, 3⟩⟩
    ⟨patient, hesitant⟩ ⟨⟨[1]⟩, none⟩ ⟨⟨[2, 1]⟩, some 5000000⟩ 5000000 .deadlineExceeded rfl
    ⟨spared _, rfl⟩ ⟨spared _, rfl, by decide⟩
  obtain ⟨failed, now, ⟨sent, log, kept⟩, -, waiting⟩ := cut (by
    intro answer after h
    rw [h] at run
    have : after.world.time.now = 13000000 := Option.some.inj run
    omega)
  refine ⟨_, failed, now, ?_, ?_⟩
  · have whole : ((Operation.query (.network .health)).course .rehearsal ⟨⟨[1]⟩, none⟩
        ⟨patient, hesitant⟩).live.world.state.log.map (·.instant) = [3000000, 0] := by
      decide +kernel
    rw [log] at whole
    have whole : sent.map (·.instant) = [3000000, 0] := by simpa [hesitant] using whole
    rw [kept, show hesitant.state.log = [] from rfl, List.append_nil,
      show (fun s : Sent => decide (s.instant < 5000000)) = (decide <| · < 5000000) ∘ (·.instant)
        from rfl, ← List.filter_map, whole]
    rfl
  · obtain ⟨front, a, back, -, -, last⟩ := waiting (by
      intro reading
      have answered : ((Operation.query (.network .health)).course .rehearsal ⟨⟨[1]⟩, none⟩
        ⟨patient, hesitant⟩).answer.isSome = true := by decide +kernel
      rw [reading.1] at answered
      cases answered)
    rw [last]

end ExplorerClient
