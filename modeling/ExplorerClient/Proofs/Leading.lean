import ExplorerClient.Proofs.Course
import ExplorerClient.Proofs.Ended
import ExplorerClient.Proofs.Severed
import ExplorerClient.Proofs.Stepped

/-!
# The contexts of sessions

A session makes a context only in a step that asks for one. In all other steps, and in all that
calls do, time goes on and contexts that have a name are cancelled, now or at an instant to come.
So the contexts of a session are those of a family: what the session makes is made there, and what
it cancels is cancelled there as soon as the cancellation is due.

Results:
* `Operation.call_elapses`: a call makes no contexts.
* `Session.Alters.keeps`: nor does a step that does not ask for one.
* `Family.Mirrors.step`: a family goes along with a step, and makes what the step makes.
* `Session.leads_family`: the contexts of a session are those of a family.
* `Session.leads_ends`: they have ended by cancellations that reach them and by deadlines that were
  given to them.
-/

namespace ExplorerClient

/-! ## Worlds in which no contexts are made -/

/-- What may become of a world in which no contexts are made. -/
structure World.Elapses (w v : World Stage) : Prop where
  later : w.time.now ≤ v.time.now
  fresh : v.time.fresh = w.time.fresh
  contexts : v.state.contexts = w.state.contexts
  kept : w.time.cancellations ⊆ v.time.cancellations
  /-- What is cancelled has a name. -/
  named : ∀ e ∈ v.time.cancellations,
    e ∈ w.time.cancellations ∨ ∃ x ∈ w.state.contexts, x.2.token = e.1

namespace World

variable {w v u : World Stage} {c : Context}

theorem Elapses.trans (first : w.Elapses v) (second : v.Elapses u) : w.Elapses u where
  later := Nat.le_trans first.later second.later
  fresh := second.fresh.trans first.fresh
  contexts := second.contexts.trans first.contexts
  kept := List.Subset.trans first.kept second.kept
  named e among := by
    rcases second.named e among with old | named
    · exact first.named e old
    · rw [first.contexts] at named
      exact .inr named

/-- Nothing happens but that time goes on. -/
theorem elapses_until (w : World Stage) {instant : Nat} (later : w.time.now ≤ instant) :
    w.Elapses { w with time.now := instant } :=
  ⟨later, rfl, rfl, List.Subset.refl _, fun _ => .inl⟩

theorem Elapses.refl (w : World Stage) : w.Elapses w := w.elapses_until (Nat.le_refl _)

theorem elapses_state (w : World Stage) {s : Stage} (same : s.contexts = w.state.contexts) :
    w.Elapses { w with state := s } :=
  ⟨Nat.le_refl _, rfl, same, List.Subset.refl _, fun _ => .inl⟩

theorem elapses_cancelAt {name : String} (named : (name, c) ∈ w.state.contexts) (instant : Nat) :
    w.Elapses { w with time := w.time.cancelAt c instant } := by
  refine ⟨Nat.le_refl _, rfl, rfl, List.subset_cons_self _ _, fun e among => ?_⟩
  rcases List.mem_cons.1 among with rfl | old
  · exact .inr ⟨(name, c), named, rfl⟩
  · exact .inl old

theorem elapses_pause (w : World Stage) (c : Context) (nanos : Nat) :
    w.Elapses (w.pause c nanos).2 := by
  obtain ⟨instant, later, time⟩ := w.time.pause_time c nanos
  have paused : (w.pause c nanos).2 = { w with time.now := instant } := by
    rw [← time]
    rfl
  rw [paused]
  exact w.elapses_until later

end World

/-! ## What executors and calls let elapse -/

theorem Cue.play_elapses (cue : Cue) (c : Context) (w : World Stage) :
    w.Elapses (cue.play c w).2 := by
  have cancelled : w.Elapses { w with time := cue.cancelled w.state w.time } := by
    unfold Cue.cancelled
    split
    · exact .refl w
    · split
      · exact .refl w
      · rename_i named
        exact World.elapses_cancelAt (Stage.context?_mem named) _
  refine cancelled.trans ?_
  show World.Elapses _ ⟨(cue.wait c (cue.cancelled w.state w.time)).2, w.state⟩
  unfold Cue.wait
  split
  · exact .refl _
  · exact World.elapses_pause ⟨_, w.state⟩ c _

namespace Executor

/-- An executor that makes no contexts. -/
def Elapses (f : Executor Stage) : Prop :=
  ∀ c request w outcome v, f c request w = some (outcome, v) → w.Elapses v

theorem refuse_elapses : (refuse : Executor Stage).Elapses := by
  intro c request w outcome v h
  unfold refuse at h
  split at h <;> cases h <;> exact .refl w

theorem scripted_elapses (name : String) : (scripted name).Elapses := by
  intro c request w outcome v h
  cases ended : w.time.err? c with
  | some e =>
    rw [scripted] at h
    simp only [ended] at h
    cases h
    exact w.elapses_state rfl
  | none =>
    rw [scripted_live ended] at h
    have played := Option.some.inj h
    have staged : w.Elapses (staged name request w) := by
      refine w.elapses_state ?_
      unfold Stage.take
      split <;> rfl
    have := staged.trans
      ((w.state.take ⟨name, w.time.now, request⟩).1.play_elapses c (Executor.staged name request w))
    rwa [played] at this

theorem retryFrom_elapses {inner : Executor Stage} (elapses : inner.Elapses) (backoff : Backoff)
    (random : Nat → Nat) {c : Context} {request : Request} {left attempt : Nat} {w v : World Stage}
    {outcome : Except Error Response}
    (h : inner.retryFrom backoff random c request left attempt w = some (outcome, v)) :
    w.Elapses v := by
  induction left generalizing attempt w with
  | zero => exact elapses c request w outcome v h
  | succ left ih =>
    obtain ⟨o, u, asked, ending⟩ := retryFrom_cases h
    have first := elapses c request w o u asked
    have paused := u.elapses_pause c (backoff.delay attempt (random attempt)).nanos
    rcases ending with ⟨-, -, rfl⟩ | ⟨e, cut, -⟩ | ⟨u', waited, again⟩
    · exact first
    · rw [cut] at paused
      exact first.trans paused
    · rw [waited] at paused
      exact (first.trans paused).trans (ih again)

theorem retrying_elapses {inner : Executor Stage} (elapses : inner.Elapses) (policy : RetryPolicy)
    (random : Nat → Nat) : (inner.retrying policy random).Elapses := by
  intro c request w outcome v h
  unfold retrying at h
  split at h
  · cases h
    exact .refl w
  · exact retryFrom_elapses elapses _ _ h

end Executor

theorem Wiring.rehearsal_elapses (slot : Slot ScriptedExecutor) :
    (Wiring.rehearsal.executor slot).Elapses := by
  cases slot with
  | supplied e =>
    simp only [Wiring.executor, Wiring.rehearsal]
    split
    · exact Executor.scripted_elapses e.name
    · exact Executor.retrying_elapses (Executor.scripted_elapses e.name) _ _
  | managed config =>
    simp only [Wiring.executor, Wiring.rehearsal]
    split
    · exact Executor.refuse_elapses
    · exact Executor.retrying_elapses Executor.refuse_elapses _ _

theorem Operation.call_elapses {ctx : Context} {op : Operation}
    {live after : Live ScriptedExecutor Stage} {outcome : Except Error Shown}
    (h : op.call .rehearsal ctx live = some (outcome, after)) : live.world.Elapses after.world := by
  rw [← op.course_ended] at h
  obtain ⟨_, -, same⟩ := Option.map_eq_some_iff.1 h
  cases same
  refine op.plan.course_world .rehearsal ctx live .refl .trans ?_ ?_
  · exact Wiring.rehearsal_elapses _ ctx
  · intro response u bytes time read
    obtain ⟨instant, later, rfl⟩ := Response.readBody_time read
    exact u.elapses_until later

/-! ## Steps of sessions -/

namespace Session

variable {s t u : Session} {c : Context}

/-- The contexts that a session has: those with a name, and those of its handles. -/
def Has (s : Session) (c : Context) : Prop :=
  (∃ x ∈ s.world.state.contexts, x.2 = c) ∨ ∃ x ∈ s.handles, x.2.context = c

/-- What may become of a session in which no contexts are made. -/
structure Keeps (s t : Session) : Prop where
  world : s.world.Elapses t.world
  has : ∀ c, t.Has c → s.Has c

theorem Keeps.of_world (world : s.world.Elapses t.world) (handles : t.handles = s.handles) :
    s.Keeps t := by
  refine ⟨world, fun c has => ?_⟩
  unfold Has at has ⊢
  rwa [world.contexts, handles] at has

theorem Keeps.of_eq (world : t.world = s.world) (handles : t.handles = s.handles) : s.Keeps t :=
  .of_world (by rw [world]; exact .refl _) handles

theorem Keeps.refl (s : Session) : s.Keeps s := .of_eq rfl rfl

theorem Keeps.putHandle (keeps : s.Keeps t) {h : Handle} (has : s.Has h.context) (name : String) :
    s.Keeps (t.putHandle name h) := by
  refine ⟨keeps.world, fun c among => ?_⟩
  rcases among with named | ⟨x, among, same⟩
  · exact keeps.has c (.inl named)
  · rcases List.mem_cons.1 among with rfl | old
    · rwa [← same]
    · exact keeps.has c (.inr ⟨x, (List.mem_filter.1 old).1, same⟩)

theorem call_keeps {h : Handle} {client : Client ScriptedExecutor} {op : Operation}
    {answer : Answer} (called : s.call h client op = some (answer, t)) : s.Keeps t := by
  obtain ⟨⟨outcome, live⟩, came, same⟩ := Option.map_eq_some_iff.1 called
  cases same
  have cleared := s.world.elapses_state (s := { s.world.state with log := [] }) rfl
  exact .of_world (cleared.trans (Operation.call_elapses came)) rfl

theorem change_keeps (s : Session) (h : Handle)
    (outcome : Except Error (Client ScriptedExecutor)) : s.Keeps (s.change h outcome).2 := by
  cases outcome <;> exact .of_eq rfl rfl

theorem Alters.keeps (h : s.Alters t) : s.Keeps t := by
  cases h with
  | nothing => exact .refl s
  | cancelled name c named instant => exact .of_world (World.elapses_cancelAt named instant) rfl
  | slept nanos => exact .of_world (World.elapses_until _ (Nat.le_add_right _ _)) rfl
  | waited c nanos => exact .of_world (World.elapses_pause _ c nanos) rfl
  | extended script => exact .of_world (World.elapses_state _ rfl) rfl
  | opened client name h named =>
    have more : s.Keeps { s with clients := s.clients ++ [client] } := .of_eq rfl rfl
    exact more.putHandle (.inl named) name
  | handled name h known => exact (Keeps.refl s).putHandle known name
  | set handle client found setting | setChainAndNetwork handle client found chain network =>
    exact change_keeps ..
  | called handle client found op answer t called => exact call_keeps called

end Session

/-! ## Families that go along -/

namespace Family

/-- The token is that of a context of the family. -/
def Knows (f : Family) (token : Token) : Prop := ∃ i c, f.contextAt i = some c ∧ c.token = token

/-- A family has come to the time of a timeline: what has been cancelled in it is what is due to be
cancelled there. -/
structure At (f : Family) (t : Timeline) : Prop where
  now : f.time.now = t.now
  fresh : f.time.fresh = t.fresh
  due : ∀ token, (∃ instant, (token, instant) ∈ f.time.cancellations) ↔
    ∃ instant ≤ t.now, (token, instant) ∈ t.cancellations
  /-- What is still to be cancelled are contexts of the family, too. -/
  known : ∀ e ∈ t.cancellations, f.Knows e.1

variable {f : Family} {t t' : Timeline} {i : Nat} {c : Context} {m : Member}

theorem At.isCancelled_eq (h : f.At t) (sound : f.Sound) (c : Context) :
    f.time.isCancelled c = t.isCancelled c := by
  rw [Bool.eq_iff_iff, Timeline.isCancelled_iff, Timeline.isCancelled_iff]
  constructor
  · rintro ⟨⟨token, _⟩, among, suffix, -⟩
    obtain ⟨instant, before, there⟩ := (h.due token).1 ⟨_, among⟩
    exact ⟨_, there, suffix, before⟩
  · rintro ⟨⟨token, instant⟩, among, suffix, before⟩
    obtain ⟨_, there⟩ := (h.due token).2 ⟨instant, before, among⟩
    exact ⟨_, there, suffix, (sound.past _ there).1⟩

theorem At.err?_eq (h : f.At t) (sound : f.Sound) (c : Context) : f.time.err? c = t.err? c := by
  unfold Timeline.err? Timeline.isOverdue
  rw [h.isCancelled_eq sound, h.now]

theorem contextAt_run (there : f.contextAt i = some c) (deeds : List Deed) :
    (f.run deeds).contextAt i = some c := by
  obtain ⟨m, found, rfl⟩ := contextAt_eq_some_iff.1 there
  exact contextAt_eq_some_iff.2 ⟨m, (f.later_run deeds).members i m found, rfl⟩

theorem Knows.run {token : Token} (h : f.Knows token) (deeds : List Deed) :
    (f.run deeds).Knows token := by
  obtain ⟨i, c, there, same⟩ := h
  exact ⟨i, c, contextAt_run there deeds, same⟩

/-- Tokens of contexts that are there can be cancelled, one after the other. -/
theorem exists_cancels (f : Family) (tokens : List Token)
    (known : ∀ token ∈ tokens, f.Knows token) :
    ∃ deeds, (∀ i how, .derive i how ∉ deeds) ∧
      (f.run deeds).time.now = f.time.now ∧ (f.run deeds).time.fresh = f.time.fresh ∧
      ∀ token, (∃ instant, (token, instant) ∈ (f.run deeds).time.cancellations) ↔
        token ∈ tokens ∨ ∃ instant, (token, instant) ∈ f.time.cancellations := by
  induction tokens generalizing f with
  | nil => exact ⟨[], by simp, rfl, rfl, fun token => by simp [run]⟩
  | cons first rest ih =>
    obtain ⟨i, c, there, rfl⟩ := known first List.mem_cons_self
    obtain ⟨m, found, rfl⟩ := contextAt_eq_some_iff.1 there
    have cancelled : (f.step (.cancel i)).time = f.time.cancel m.context := by
      simp only [step, found]
    obtain ⟨deeds, idle, now, fresh, due⟩ := ih (f.step (.cancel i)) fun token among =>
      (known token (List.mem_cons_of_mem _ among)).run [.cancel i]
    rw [cancelled] at now fresh due
    refine ⟨.cancel i :: deeds, by simpa using idle, now, fresh, fun token => (due token).trans ?_⟩
    simp only [Timeline.cancel, Timeline.cancelAt, List.mem_cons, Prod.mk.injEq]
    constructor
    · rintro (among | ⟨instant, ⟨rfl, -⟩ | old⟩)
      · exact .inl (.inr among)
      · exact .inl (.inl rfl)
      · exact .inr ⟨instant, old⟩
    · rintro ((rfl | among) | ⟨instant, old⟩)
      · exact .inr ⟨_, .inl ⟨rfl, rfl⟩⟩
      · exact .inl among
      · exact .inr ⟨instant, .inr old⟩

/-- When time goes on, the family does so first and cancels then what has become due. -/
theorem At.elapse (h : f.At t) (later : t.now ≤ t'.now) (fresh : t'.fresh = t.fresh)
    (kept : t.cancellations ⊆ t'.cancellations)
    (known : ∀ e ∈ t'.cancellations, f.Knows e.1) :
    ∃ deeds, (∀ i how, .derive i how ∉ deeds) ∧ (f.run deeds).At t' := by
  have advanced : f.time.now + (t'.now - t.now) = t'.now := by
    rw [h.now]
    omega
  have overdue : ∀ token, token ∈ (t'.cancellations.filter (·.2 ≤ t'.now)).map (·.1) ↔
      ∃ instant ≤ t'.now, (token, instant) ∈ t'.cancellations := by
    intro token
    simp [and_comm]
  obtain ⟨deeds, idle, now, number, due⟩ := (f.step (.advance (t'.now - t.now))).exists_cancels
    ((t'.cancellations.filter (·.2 ≤ t'.now)).map (·.1)) fun token among => by
      obtain ⟨instant, -, there⟩ := (overdue token).1 among
      exact known (token, instant) there
  refine ⟨.advance (t'.now - t.now) :: deeds, by simpa using idle, now.trans advanced,
    (number.trans h.fresh).trans fresh.symm, fun token => (due token).trans ?_,
    fun e among => (known e among).run _⟩
  rw [overdue]
  constructor
  · rintro (among | old)
    · exact among
    · obtain ⟨instant, before, there⟩ := (h.due token).1 old
      exact ⟨instant, Nat.le_trans before later, kept there⟩
  · exact .inl

/-- What a context is made from and when decides on it. -/
theorem derive_congr (now : t.now = t'.now) (fresh : t.fresh = t'.fresh) (p : Context)
    (how : Derivation) : (Session.derive t p how).1 = (Session.derive t' p how).1 := by
  cases how <;>
    simp [Session.derive, Timeline.background, Timeline.child, Timeline.childToken,
      Timeline.withTimeout, Timeline.withDeadline, now, fresh]

/-- When a context is made, the family makes the same one. -/
theorem At.derive (h : f.At t) (found : f.members[i]? = some m) (how : Derivation) :
    (f.step (.derive i how)).At (Session.derive t m.context how).2 ∧
      (f.step (.derive i how)).contextAt f.members.length =
        some (Session.derive t m.context how).1 := by
  have time : (f.step (.derive i how)).time = (Session.derive f.time m.context how).2 := by
    simp only [step, found]
  constructor
  · rw [Session.derive_time t]
    rw [Session.derive_time f.time] at time
    refine ⟨?_, ?_, ?_, fun e among => (h.known e among).run [.derive i how]⟩
    · rw [time]
      exact h.now
    · rw [time, h.fresh]
    · rw [time]
      exact h.due
  · simp only [contextAt, step, found, List.getElem?_concat_length, Option.map_some]
    rw [derive_congr h.now h.fresh]

/-- The contexts of a session are contexts of a family, at the same time. -/
structure Mirrors (f : Family) (s : Session) : Prop where
  time : f.At s.world.time
  has : ∀ c, s.Has c → ∃ i, f.contextAt i = some c

variable {s s' : Session}

theorem mirrors_start (script : List Cue) : start.Mirrors (Session.start script) where
  time := ⟨rfl, rfl, fun token => by simp [start, Session.start, Timeline.start],
    fun e among => by cases among⟩
  has c has := by
    rcases has with ⟨x, among, rfl⟩ | ⟨x, among, -⟩
    · obtain rfl := List.mem_singleton.1 among
      exact ⟨0, rfl⟩
    · cases among

theorem Mirrors.keeps (h : f.Mirrors s) (keeps : s.Keeps s') :
    ∃ deeds, (∀ i how, .derive i how ∉ deeds) ∧ (f.run deeds).Mirrors s' := by
  have known : ∀ e ∈ s'.world.time.cancellations, f.Knows e.1 := by
    intro e among
    rcases keeps.world.named e among with old | ⟨x, named, same⟩
    · exact h.time.known e old
    · obtain ⟨i, there⟩ := h.has x.2 (.inl ⟨x, named, rfl⟩)
      exact ⟨i, x.2, there, same⟩
  obtain ⟨deeds, idle, time⟩ :=
    h.time.elapse keeps.world.later keeps.world.fresh keeps.world.kept known
  refine ⟨deeds, idle, time, fun c has => ?_⟩
  obtain ⟨i, there⟩ := h.has c (keeps.has c has)
  exact ⟨i, contextAt_run there deeds⟩

theorem Mirrors.derived (h : f.Mirrors s) {p : Context} (there : f.contextAt i = some p)
    (name : String) (how : Derivation) :
    (f.run [.derive i how]).Mirrors (s.derived name p how) := by
  obtain ⟨m, found, rfl⟩ := contextAt_eq_some_iff.1 there
  obtain ⟨time, new⟩ := h.time.derive found how
  refine ⟨time, fun c has => ?_⟩
  have old (had : s.Has c) : ∃ j, (f.run [.derive i how]).contextAt j = some c := by
    obtain ⟨j, there⟩ := h.has c had
    exact ⟨j, contextAt_run there _⟩
  rcases has with ⟨x, among, rfl⟩ | held
  · rcases List.mem_cons.1 among with rfl | among
    · exact ⟨_, new⟩
    · exact old (.inl ⟨x, (List.mem_filter.1 among).1, rfl⟩)
  · exact old (.inr held)

/-- What a family does in a step of a session: it makes a context where the step makes one, from the
context that the step names, and makes none elsewhere. -/
def Suits (f : Family) (s : Session) (step : Step) (deeds : List Deed) : Prop :=
  match step with
  | .derive _ parent how => ∃ i, f.contextAt i = s.context? parent ∧ deeds = [.derive i how]
  | _ => ∀ i how, .derive i how ∉ deeds

theorem Mirrors.step (h : f.Mirrors s) {step : Step} {answer : Answer}
    (taken : s.step step = some (answer, s')) :
    ∃ deeds, f.Suits s step deeds ∧ (f.run deeds).Mirrors s' := by
  have turns := Session.step_turns taken
  cases step with
  | derive name parent how =>
    obtain ⟨p, found, rfl⟩ := turns
    obtain ⟨i, there⟩ := h.has p (.inl ⟨_, Stage.context?_mem found, rfl⟩)
    exact ⟨[.derive i how], ⟨i, there.trans found.symm, rfl⟩, h.derived there name how⟩
  | _ => exact h.keeps (Session.Alters.keeps turns)

/-- A family that goes along with a session from its start, step by step. -/
inductive Accompanies : Family → Session → Prop where
  | start (script : List Cue) : Accompanies start (Session.start script)
  | step {f : Family} {s s' : Session} {step : Step} {answer : Answer} {deeds : List Deed}
    (along : Accompanies f s) (taken : s.step step = some (answer, s'))
    (suits : f.Suits s step deeds) (mirrors : (f.run deeds).Mirrors s') :
    Accompanies (f.run deeds) s'

theorem Accompanies.mirrors (h : f.Accompanies s) : f.Mirrors s := by
  cases h with
  | start script => exact mirrors_start script
  | step _ _ _ mirrors => exact mirrors

theorem Accompanies.exists_run (h : f.Accompanies s) : ∃ deeds, f = Family.start.run deeds := by
  induction h with
  | start script => exact ⟨[], rfl⟩
  | @step _ _ _ _ _ more _ _ _ _ ih =>
    obtain ⟨deeds, rfl⟩ := ih
    exact ⟨deeds ++ more, List.foldl_append.symm⟩

theorem Accompanies.sound (h : f.Accompanies s) : f.Sound := by
  obtain ⟨deeds, rfl⟩ := h.exists_run
  exact sound_start.run deeds

end Family

/-! ## The contexts of sessions -/

namespace Session

variable {script : List Cue} {s : Session}

/-- However many steps a session takes, its contexts are those of a family that goes along. -/
theorem leads_family (h : Leads (start script) s) : ∃ f : Family, f.Accompanies s := by
  generalize origin : start script = first at h
  induction h with
  | refl =>
    rw [← origin]
    exact ⟨_, .start script⟩
  | step _ taken ih =>
    obtain ⟨f, along⟩ := ih
    obtain ⟨deeds, suits, mirrors⟩ := along.mirrors.step taken
    exact ⟨f.run deeds, .step along taken suits mirrors⟩

/-- All contexts of a session have ended as those of the family that goes along, and that is what
the session shows of them. -/
theorem leads_ends (h : Leads (start script) s) :
    ∃ f : Family, f.Accompanies s ∧ ∀ c, s.Has c → ∃ i, f.Ends i c ∧
      s.contextState c = ⟨f.time.now, f.time.err? c, f.time.isCancelled c, c.deadline⟩ := by
  obtain ⟨f, along⟩ := leads_family h
  refine ⟨f, along, fun c has => ?_⟩
  obtain ⟨i, there⟩ := along.mirrors.has c has
  obtain ⟨m, found, rfl⟩ := Family.contextAt_eq_some_iff.1 there
  have time := along.mirrors.time
  refine ⟨i, along.sound.ends found, ?_⟩
  rw [time.err?_eq along.sound, time.isCancelled_eq along.sound, time.now]
  rfl

end Session

end ExplorerClient
