import ExplorerClient.Proofs.Retrying
import ExplorerClient.Session.Script

/-!
# Runs that are cut short

The same run is looked at under a context that never ends and under one that ends at an instant to
come. Up to that instant nothing tells the two apart. If the first run is over by then, so is the
second, in the same way. Otherwise the second stops at the instant itself: it fails for the end of
its context, and its requests are those that the first run had made before.

Results:
* `Executor.scripted_cuts`: scripted executors can be cut short like this.
* `Executor.retrying_cuts`: so can executors that retry one that can.
-/

namespace ExplorerClient

/-! ## Worlds that go on -/

/-- The entry cancels no context that the given one depends on. -/
def Cue.Spares (cue : Cue) (s : Stage) (c : Context) : Prop :=
  ∀ name, cue.cancel = some name → ∀ k, s.context? name = some k →
    c.token.descendsFrom k.token = false

/-- No entry that is left in the script cancels the context. -/
def Stage.Spares (s : Stage) (c : Context) : Prop := ∀ cue ∈ s.script, cue.Spares s c

namespace World

/-- What may become of a world in which requests are answered from a script. -/
structure Onward (w v : World Stage) : Prop where
  keeps : ∀ c, w.state.Spares c → v.time.ending? c = w.time.ending? c ∧ v.state.Spares c
  later : w.time.now ≤ v.time.now
  /-- The requests made in between are added to the log. -/
  log : ∃ sent, v.state.log = sent ++ w.state.log ∧
    ∀ s ∈ sent, w.time.now ≤ s.instant ∧ s.instant ≤ v.time.now

/-- The context never ends. -/
structure Lasting (c : Context) (w : World Stage) : Prop where
  spared : w.state.Spares c
  lasts : w.time.ending? c = none

/-- The context ends at an instant to come, with the given error. -/
structure Ending (c : Context) (instant : Nat) (ended : Error) (w : World Stage) : Prop where
  spared : w.state.Spares c
  ends : w.time.ending? c = some (instant, ended)
  early : w.time.now < instant

/-- Something that began in the world `w` led to `v`, or to `cut` when it was cut short. -/
structure Severed (instant : Nat) (w v cut : World Stage) : Prop where
  stops : cut.time.now = instant
  /-- Of the requests made since, those before the instant are made all the same. -/
  log : ∃ sent, v.state.log = sent ++ w.state.log ∧
    cut.state.log = (sent.filter fun s => s.instant < instant) ++ w.state.log

variable {w v u cut : World Stage} {c : Context} {instant : Nat} {ended : Error}

theorem Onward.refl (w : World Stage) : w.Onward w :=
  ⟨fun _ spared => ⟨rfl, spared⟩, Nat.le_refl _, [], rfl, by simp⟩

theorem Onward.trans (first : w.Onward v) (second : v.Onward u) : w.Onward u := by
  obtain ⟨sent, log, bounds⟩ := first.log
  obtain ⟨sent', log', bounds'⟩ := second.log
  have h := first.later
  have h' := second.later
  refine ⟨?_, by omega, sent' ++ sent, by rw [log', log, List.append_assoc], ?_⟩
  · intro c spared
    obtain ⟨kept, spared⟩ := first.keeps c spared
    obtain ⟨kept', spared⟩ := second.keeps c spared
    exact ⟨kept'.trans kept, spared⟩
  · intro s hs
    rcases List.mem_append.mp hs with hs | hs
    · have := bounds' s hs
      omega
    · have := bounds s hs
      omega

theorem Onward.lasting (on : w.Onward v) (h : w.Lasting c) : v.Lasting c := by
  obtain ⟨kept, spared⟩ := on.keeps c h.spared
  exact ⟨spared, kept.trans h.lasts⟩

theorem Onward.ending (on : w.Onward v) (h : w.Ending c instant ended)
    (early : v.time.now < instant) : v.Ending c instant ended := by
  obtain ⟨kept, spared⟩ := on.keeps c h.spared
  exact ⟨spared, kept.trans h.ends, early⟩

theorem onward_after (w : World Stage) (nanos : Nat) : w.Onward (w.after nanos) :=
  ⟨fun _ spared => ⟨rfl, spared⟩, Nat.le_add_right _ _, [], rfl, by simp⟩

/-- What happens after the instant does not change what was cut short. -/
theorem Severed.onward (h : Severed instant w v cut) (late : instant ≤ v.time.now)
    (on : v.Onward u) : Severed instant w u cut := by
  obtain ⟨sent, log, kept⟩ := h.log
  obtain ⟨more, log', bounds⟩ := on.log
  refine ⟨h.stops, more ++ sent, by rw [log', log, List.append_assoc], ?_⟩
  have dropped : more.filter (fun s => s.instant < instant) = [] := by
    rw [List.filter_eq_nil_iff]
    intro s hs
    have := bounds s hs
    simp only [decide_eq_true_eq]
    omega
  rw [kept, List.filter_append, dropped, List.nil_append]

/-- What happens before the instant is not cut short. -/
theorem Onward.severed (on : w.Onward v) (early : v.time.now < instant)
    (h : Severed instant v u cut) : Severed instant w u cut := by
  obtain ⟨sent, log, bounds⟩ := on.log
  obtain ⟨more, log', kept⟩ := h.log
  refine ⟨h.stops, more ++ sent, by rw [log', log, List.append_assoc], ?_⟩
  have all : sent.filter (fun s => s.instant < instant) = sent := by
    rw [List.filter_eq_self]
    intro s hs
    have := bounds s hs
    simp only [decide_eq_true_eq]
    omega
  rw [kept, log, List.filter_append, all, List.append_assoc]

/-- A wait that is cut short. -/
theorem severed_now (w : World Stage) (nanos instant : Nat) :
    Severed instant w (w.after nanos) { w with time.now := instant } :=
  ⟨rfl, [], rfl, rfl⟩

theorem Ending.pause (h : w.Ending c instant ended) (nanos : Nat) :
    w.pause c nanos = if instant ≤ (w.after nanos).time.now
      then (some ended, { w with time.now := instant }) else (none, w.after nanos) := by
  rw [World.pause, Timeline.pause_of_later h.ends h.early]
  by_cases reached : instant ≤ w.time.now + nanos
  · rw [if_pos reached]
    exact (if_pos reached).symm
  · rw [if_neg reached]
    exact (if_neg reached).symm

end World

/-! ## Entries of a script -/

namespace Cue

variable {cue : Cue} {w : World Stage} {c : Context} {instant : Nat} {ended : Error}

/-- What the entry has as an answer. -/
def answer (cue : Cue) : Except Error Response :=
  match cue.outcome with
  | .fail e => .error e
  | .respond response => .ok response

/-- The world when the entry has been played to its end. -/
def played (cue : Cue) (w : World Stage) : World Stage :=
  ⟨(cue.cancelled w.state w.time).advance (cue.delay.getD 0), w.state⟩

theorem cancelled_now (cue : Cue) (s : Stage) (t : Timeline) :
    (cue.cancelled s t).now = t.now := by
  unfold cancelled
  split
  · rfl
  · split <;> rfl

theorem cancelled_ending? {s : Stage} (spared : cue.Spares s c) (t : Timeline) :
    (cue.cancelled s t).ending? c = t.ending? c := by
  unfold cancelled
  split
  · rfl
  · rename_i name asked
    split
    · rfl
    · rename_i k found
      have apart := spared name asked k found
      simp only [Timeline.ending?, Timeline.cancelInstants, Timeline.cancel, Timeline.cancelAt,
        List.filter_cons, apart, Bool.false_eq_true, if_false]

theorem wait_lasting {t : Timeline} (lasts : t.ending? c = none) (cue : Cue) :
    cue.wait c t = (none, t.advance (cue.delay.getD 0)) := by
  unfold wait
  cases cue.delay with
  | none => rfl
  | some nanos => exact Timeline.pause_lasting lasts nanos

theorem wait_ending {t : Timeline} (ends : t.ending? c = some (instant, ended))
    (early : t.now < instant) (cue : Cue) :
    cue.wait c t = if instant ≤ t.now + cue.delay.getD 0
      then (some ended, { t with now := instant }) else (none, t.advance (cue.delay.getD 0)) := by
  unfold wait
  cases cue.delay with
  | none =>
    rw [if_neg]
    · rfl
    · show ¬ instant ≤ t.now + 0
      omega
  | some nanos => exact Timeline.pause_of_later ends early nanos

theorem play_waited {t : Timeline} (h : cue.wait c (cue.cancelled w.state w.time) = (none, t)) :
    cue.play c w = (cue.answer, ⟨t, w.state⟩) := by
  unfold play answer
  rw [h]
  cases cue.outcome <;> rfl

theorem play_interrupted {t : Timeline}
    (h : cue.wait c (cue.cancelled w.state w.time) = (some ended, t)) :
    cue.play c w = (.error ended, ⟨t, w.state⟩) := by
  unfold play
  rw [h]

theorem play_lasting (lasts : w.time.ending? c = none) (spared : cue.Spares w.state c) :
    cue.play c w = (cue.answer, cue.played w) := by
  rw [← cancelled_ending? spared] at lasts
  exact play_waited (wait_lasting lasts cue)

theorem play_ending (ends : w.time.ending? c = some (instant, ended)) (early : w.time.now < instant)
    (spared : cue.Spares w.state c) :
    cue.play c w = if instant ≤ (cue.played w).time.now
      then (.error ended, { cue.played w with time.now := instant })
      else (cue.answer, cue.played w) := by
  rw [← cancelled_ending? spared] at ends
  rw [← cue.cancelled_now w.state] at early
  have waited := wait_ending ends early cue
  by_cases reached : instant ≤ (cue.played w).time.now
  · rw [if_pos reached]
    exact play_interrupted (waited.trans (if_pos reached))
  · rw [if_neg reached]
    exact play_waited (waited.trans (if_neg reached))

end Cue

/-! ## Executors -/

namespace Stage

/-- The entry that answers a request, and the stage when it has been taken. -/
def take (s : Stage) (sent : Sent) : Cue × Stage :=
  match s.script with
  | [] => (.exhausted, { s with log := sent :: s.log })
  | cue :: rest => (cue, { s with script := rest, log := sent :: s.log })

theorem take_log (s : Stage) (sent : Sent) : (s.take sent).2.log = sent :: s.log := by
  unfold take
  split <;> rfl

theorem take_spares {s : Stage} {c : Context} (spared : s.Spares c) (sent : Sent) :
    (s.take sent).1.Spares (s.take sent).2 c ∧ (s.take sent).2.Spares c := by
  unfold take
  split
  · rename_i empty
    constructor
    · intro name asked
      cases asked
    · exact spared
  · rename_i cue rest script
    rw [Spares, script] at spared
    exact ⟨spared cue List.mem_cons_self, fun other h => spared other (List.mem_cons_of_mem _ h)⟩

end Stage

namespace Executor

variable {forever ctx : Context} {instant : Nat} {ended : Error} {random : Nat → Nat}

/-- Under a context that ends an executor does what it does under one that lasts, but no longer than
to that instant. -/
structure Cuts (f : Executor Stage) (forever ctx : Context) (instant : Nat) (ended : Error) :
    Prop where
  /-- Under the context that lasts there is always an answer. -/
  answers : ∀ request w, w.Lasting forever →
    ∃ outcome v, f forever request w = some (outcome, v) ∧ w.Onward v
  before : ∀ request w outcome v, w.Lasting forever → w.Ending ctx instant ended →
    f forever request w = some (outcome, v) → v.time.now < instant →
    f ctx request w = some (outcome, v)
  severed : ∀ request w outcome v, w.Lasting forever → w.Ending ctx instant ended →
    f forever request w = some (outcome, v) → instant ≤ v.time.now →
    ∃ cut, f ctx request w = some (.error ended, cut) ∧ World.Severed instant w v cut

/-- The world in which the entry that answers a request is played. -/
def staged (name : String) (request : Request) (w : World Stage) : World Stage :=
  ⟨w.time, (w.state.take ⟨name, w.time.now, request⟩).2⟩

theorem scripted_live {c : Context} {w : World Stage} (live : w.time.err? c = none)
    (name : String) (request : Request) :
    scripted name c request w = some
      ((w.state.take ⟨name, w.time.now, request⟩).1.play c (staged name request w)) := by
  unfold scripted staged Stage.take
  simp only [live]
  cases w.state.script <;> rfl

theorem onward_staged {name : String} {request : Request} {w : World Stage} :
    w.Onward ((w.state.take ⟨name, w.time.now, request⟩).1.played (staged name request w)) := by
  refine ⟨?_, ?_, [⟨name, w.time.now, request⟩], Stage.take_log .., ?_⟩
  · intro c spared
    obtain ⟨cue_spares, stage_spares⟩ :=
      Stage.take_spares spared ⟨name, w.time.now, request⟩
    exact ⟨Cue.cancelled_ending? cue_spares w.time, stage_spares⟩
  · show w.time.now ≤ (Cue.cancelled _ _ w.time).now + _
    rw [Cue.cancelled_now]
    exact Nat.le_add_right _ _
  · intro s hs
    obtain rfl := List.mem_singleton.mp hs
    show w.time.now ≤ w.time.now ∧ w.time.now ≤ (Cue.cancelled _ _ w.time).now + _
    rw [Cue.cancelled_now]
    exact ⟨Nat.le_refl _, Nat.le_add_right _ _⟩

theorem scripted_lasting {w : World Stage} (h : w.Lasting forever) (name : String)
    (request : Request) :
    scripted name forever request w = some
      ((w.state.take ⟨name, w.time.now, request⟩).1.answer,
        (w.state.take ⟨name, w.time.now, request⟩).1.played (staged name request w)) := by
  rw [scripted_live (Timeline.err?_of_lasting h.lasts)]
  congr 1
  exact Cue.play_lasting h.lasts (Stage.take_spares h.spared _).1

theorem scripted_cuts (name : String) : (scripted name).Cuts forever ctx instant ended := by
  refine ⟨?_, ?_, ?_⟩
  · intro request w lasting
    exact ⟨_, _, scripted_lasting lasting name request, onward_staged⟩
  · intro request w outcome v lasting ending answered early
    rw [scripted_lasting lasting] at answered
    cases answered
    rw [scripted_live (Timeline.err?_of_later ending.ends ending.early)]
    congr 1
    rw [Cue.play_ending (w := staged name request w) ending.ends ending.early
      (Stage.take_spares ending.spared _).1]
    exact if_neg (by omega)
  · intro request w outcome v lasting ending answered late
    rw [scripted_lasting lasting] at answered
    cases answered
    rw [scripted_live (Timeline.err?_of_later ending.ends ending.early)]
    rw [Cue.play_ending (w := staged name request w) ending.ends ending.early
      (Stage.take_spares ending.spared _).1, if_pos late]
    refine ⟨_, rfl, rfl, [⟨name, w.time.now, request⟩], Stage.take_log .., ?_⟩
    show (w.state.take _).2.log = _
    rw [Stage.take_log, List.filter_cons, if_pos (decide_eq_true ending.early)]
    rfl

/-! ## Retries -/

theorem shouldRetry_context {e : Error} (h : e.isContext = true) :
    shouldRetry (.error e) = false := by
  rw [shouldRetry, h]
  rfl

section

variable {f : Executor Stage} {backoff : Backoff} {request : Request}

theorem retryFrom_answers (cuts : f.Cuts forever ctx instant ended) (backoff : Backoff)
    (random : Nat → Nat) (request : Request) (left attempt : Nat) {w : World Stage}
    (lasting : w.Lasting forever) :
    ∃ outcome v, f.retryFrom backoff random forever request left attempt w = some (outcome, v) ∧
      w.Onward v := by
  induction left generalizing attempt w with
  | zero => exact cuts.answers request w lasting
  | succ left ih =>
    obtain ⟨outcome, v, answered, on⟩ := cuts.answers request w lasting
    rw [retryFrom_succ answered]
    by_cases again : shouldRetry outcome = true
    · rw [if_pos again, World.pause_lasting (on.lasting lasting).lasts]
      have waited := on.trans (World.onward_after v (backoff.delay attempt (random attempt)).nanos)
      obtain ⟨result, u, finished, on'⟩ := ih (attempt + 1) (waited.lasting lasting)
      exact ⟨result, u, finished, waited.trans on'⟩
    · rw [if_neg again]
      exact ⟨outcome, v, rfl, on⟩

theorem retryFrom_before (cuts : f.Cuts forever ctx instant ended) {left attempt : Nat}
    {w v : World Stage} {outcome : Except Error Response} (lasting : w.Lasting forever)
    (ending : w.Ending ctx instant ended)
    (h : f.retryFrom backoff random forever request left attempt w = some (outcome, v))
    (early : v.time.now < instant) :
    f.retryFrom backoff random ctx request left attempt w = some (outcome, v) := by
  induction left generalizing attempt w with
  | zero => exact cuts.before request w outcome v lasting ending h early
  | succ left ih =>
    obtain ⟨o, u, answered, on⟩ := cuts.answers request w lasting
    rw [retryFrom_succ answered] at h
    by_cases again : shouldRetry o = true
    · rw [if_pos again, World.pause_lasting (on.lasting lasting).lasts] at h
      simp only at h
      have waited := on.trans (World.onward_after u (backoff.delay attempt (random attempt)).nanos)
      obtain ⟨o', v', finished, on'⟩ :=
        retryFrom_answers cuts backoff random request left (attempt + 1) (waited.lasting lasting)
      rw [finished] at h
      cases h
      -- everything up to the end of the run, this wait included, comes before the instant
      have wait_early :
          (u.after (backoff.delay attempt (random attempt)).nanos).time.now < instant :=
        Nat.lt_of_le_of_lt on'.later early
      have answer_early : u.time.now < instant :=
        Nat.lt_of_le_of_lt (Nat.le_add_right _ _) wait_early
      rw [retryFrom_succ (cuts.before request w o u lasting ending answered answer_early),
        if_pos again, (on.ending ending answer_early).pause, if_neg (by omega)]
      exact ih (waited.lasting lasting) (waited.ending ending wait_early) finished
    · rw [if_neg again] at h
      cases h
      rw [retryFrom_succ (cuts.before request w outcome v lasting ending answered early),
        if_neg again]

theorem retryFrom_severed (cuts : f.Cuts forever ctx instant ended) {left attempt : Nat}
    {w v : World Stage} {outcome : Except Error Response} (lasting : w.Lasting forever)
    (ending : w.Ending ctx instant ended)
    (h : f.retryFrom backoff random forever request left attempt w = some (outcome, v))
    (late : instant ≤ v.time.now) :
    ∃ cut, f.retryFrom backoff random ctx request left attempt w = some (.error ended, cut) ∧
      World.Severed instant w v cut := by
  induction left generalizing attempt w with
  | zero => exact cuts.severed request w outcome v lasting ending h late
  | succ left ih =>
    have final := shouldRetry_context (Timeline.ending?_isContext ending.ends)
    obtain ⟨o, u, answered, on⟩ := cuts.answers request w lasting
    rw [retryFrom_succ answered] at h
    by_cases again : shouldRetry o = true
    · rw [if_pos again, World.pause_lasting (on.lasting lasting).lasts] at h
      simp only at h
      have on_wait := World.onward_after u (backoff.delay attempt (random attempt)).nanos
      have waited := on.trans on_wait
      obtain ⟨o', v', finished, on'⟩ :=
        retryFrom_answers cuts backoff random request left (attempt + 1) (waited.lasting lasting)
      have same := finished.symm.trans h
      cases same
      by_cases answer_late : instant ≤ u.time.now
      · -- the attempt itself is cut short, which is no reason for another
        obtain ⟨cut, stopped, severed⟩ := cuts.severed request w o u lasting ending answered
          answer_late
        rw [retryFrom_succ stopped, if_neg (by simp [final])]
        exact ⟨cut, rfl, severed.onward answer_late (on_wait.trans on')⟩
      · have answer_early : u.time.now < instant := by omega
        rw [retryFrom_succ (cuts.before request w o u lasting ending answered answer_early),
          if_pos again, (on.ending ending answer_early).pause]
        by_cases wait_late :
            instant ≤ (u.after (backoff.delay attempt (random attempt)).nanos).time.now
        · -- the wait is cut short
          rw [if_pos wait_late]
          exact ⟨_, rfl, on.severed answer_early
            ((World.severed_now u _ instant).onward wait_late on')⟩
        · have wait_early : (u.after _).time.now < instant := Nat.lt_of_not_le wait_late
          rw [if_neg wait_late]
          obtain ⟨cut, stopped, severed⟩ :=
            ih (waited.lasting lasting) (waited.ending ending wait_early) finished
          exact ⟨cut, stopped, waited.severed wait_early severed⟩
    · rw [if_neg again] at h
      cases h
      obtain ⟨cut, stopped, severed⟩ :=
        cuts.severed request w outcome v lasting ending answered late
      rw [retryFrom_succ stopped, if_neg (by simp [final])]
      exact ⟨cut, rfl, severed⟩

theorem retrying_cuts (cuts : f.Cuts forever ctx instant ended) (policy : RetryPolicy)
    (random : Nat → Nat) : (f.retrying policy random).Cuts forever ctx instant ended := by
  refine ⟨?_, ?_, ?_⟩
  · intro request w lasting
    unfold retrying
    cases request.replay? with
    | none => exact ⟨_, _, rfl, World.Onward.refl w⟩
    | some parts => exact retryFrom_answers cuts _ _ _ _ _ lasting
  · intro request w outcome v lasting ending answered early
    unfold retrying at answered ⊢
    cases kept : request.replay? with
    | none =>
      rw [kept] at answered
      exact answered
    | some parts =>
      rw [kept] at answered
      exact retryFrom_before cuts lasting ending answered early
  · intro request w outcome v lasting ending answered late
    unfold retrying at answered ⊢
    cases kept : request.replay? with
    | none =>
      rw [kept] at answered
      cases answered
      exact absurd ending.early (Nat.not_lt_of_le late)
    | some parts =>
      rw [kept] at answered
      exact retryFrom_severed cuts lasting ending answered late

end

end Executor

theorem Wiring.rehearsal_cuts (e : ScriptedExecutor) (forever ctx : Context) (instant : Nat)
    (ended : Error) : (rehearsal.supplied e).Cuts forever ctx instant ended := by
  obtain ⟨name, retry⟩ := e
  cases retry with
  | none => exact Executor.scripted_cuts name
  | some policy => exact Executor.retrying_cuts (Executor.scripted_cuts name) policy _

end ExplorerClient
