import ExplorerClient.Http.Executor

/-!
# Waits under contexts that last and contexts that end

A context that never ends leaves a wait alone. One that ends at an instant to come cuts short
exactly the waits that reach that instant, and then says so.

Results:
* `err?_of_lasting`: a context that never ends has not ended.
* `pause_lasting`: under such a context a wait takes its time.
* `pause_time`, `readBody_time`: waits and the reading of bodies only let time go on.
* `pause_of_later`: under a context that ends later a wait takes its time if it is over before.
* `pause_isContext`, `readBody_error`: what is cut short fails for the end of its context.
-/

namespace ExplorerClient

namespace Timeline

theorem err?_of_lasting {t : Timeline} {c : Context} (lasts : t.ending? c = none) :
    t.err? c = none := by
  unfold ending? at lasts
  cases instants : t.cancelInstants c with
  | cons k rest =>
    rw [instants, List.min?_cons'] at lasts
    cases due : c.deadline with
    | none =>
      rw [due] at lasts
      cases lasts
    | some d =>
      rw [due] at lasts
      simp only at lasts
      split at lasts <;> cases lasts
  | nil =>
    cases due : c.deadline with
    | some d => simp [instants, due] at lasts
    | none => simp [err?, isCancelled, isOverdue, instants, due]

theorem pause_lasting {t : Timeline} {c : Context} (lasts : t.ending? c = none) (nanos : Nat) :
    t.pause c nanos = (none, t.advance nanos) :=
  pause_live lasts (err?_of_lasting lasts) nanos

theorem err?_of_later {t : Timeline} {c : Context} {instant : Nat} {e : Error}
    (ends : t.ending? c = some (instant, e)) (later : t.now < instant) : t.err? c = none := by
  have uncancelled : ∀ k, (t.cancelInstants c).min? = some k → t.now < k →
      t.isCancelled c = false := by
    intro k least early
    obtain ⟨-, bound⟩ := List.min?_eq_some_iff.mp least
    rw [isCancelled, List.any_eq_false]
    intro x hx
    have := bound x hx
    simp only [decide_eq_true_eq]
    omega
  unfold ending? at ends
  unfold err?
  cases least : (t.cancelInstants c).min? with
  | some k =>
    cases due : c.deadline with
    | some d =>
      rw [least, due] at ends
      simp only at ends
      by_cases first : k ≤ d
      · rw [if_pos first] at ends
        cases ends
        simp [uncancelled _ least later, isOverdue, due]
        omega
      · rw [if_neg first] at ends
        cases ends
        simp [uncancelled _ least (by omega), isOverdue, due, later]
    | none =>
      rw [least, due] at ends
      cases ends
      simp [uncancelled _ least later, isOverdue, due]
  | none =>
    have empty : t.cancelInstants c = [] := List.min?_eq_none_iff.mp least
    cases due : c.deadline with
    | some d =>
      rw [least, due] at ends
      cases ends
      simp [isCancelled, isOverdue, empty, due, later]
    | none =>
      rw [least, due] at ends
      cases ends

/-- A context that has not ended yet ends later. -/
theorem later_of_live {t : Timeline} {c : Context} {instant : Nat} {e : Error}
    (live : t.err? c = none) (ends : t.ending? c = some (instant, e)) : t.now < instant := by
  have uncancelled : ∀ k, (t.cancelInstants c).min? = some k → t.now < k := by
    intro k least
    refine Nat.lt_of_not_ge fun late => ?_
    have cancelled : t.isCancelled c = true :=
      List.any_eq_true.mpr ⟨k, List.min?_mem least, decide_eq_true late⟩
    simp [err?, cancelled] at live
  have early : ∀ d, c.deadline = some d → t.now < d := by
    intro d due
    refine Nat.lt_of_not_ge fun late => ?_
    have overdue : t.isOverdue c = true := by
      rw [isOverdue, due]
      exact decide_eq_true late
    rw [err?, overdue] at live
    split at live <;> cases live
  unfold ending? at ends
  split at ends
  · rename_i k d least due
    split at ends <;> cases ends
    · exact uncancelled _ least
    · exact early _ due
  · rename_i k least _
    cases ends
    exact uncancelled _ least
  · rename_i d _ due
    cases ends
    exact early _ due
  · cases ends

/-- A wait lets time go on and changes nothing else. -/
theorem pause_time (t : Timeline) (c : Context) (nanos : Nat) :
    ∃ instant, t.now ≤ instant ∧ (t.pause c nanos).2 = { t with now := instant } := by
  unfold pause
  split
  · exact ⟨t.now, Nat.le_refl _, rfl⟩
  · rename_i live
    split
    · rename_i instant e ends
      split
      · exact ⟨instant, Nat.le_of_lt (later_of_live live ends), rfl⟩
      · exact ⟨t.now + nanos, Nat.le_add_right _ _, rfl⟩
    · exact ⟨t.now + nanos, Nat.le_add_right _ _, rfl⟩

theorem untilEnd_time {t after : Timeline} {c : Context} {e : Error}
    (h : t.untilEnd c = some (e, after)) :
    ∃ instant, t.now ≤ instant ∧ after = { t with now := instant } := by
  unfold untilEnd at h
  split at h
  · cases h
    exact ⟨t.now, Nat.le_refl _, rfl⟩
  · rename_i live
    obtain ⟨⟨instant, e'⟩, ends, h⟩ := Option.map_eq_some_iff.mp h
    cases h
    exact ⟨instant, Nat.le_of_lt (later_of_live live ends), rfl⟩

/-- A wait under a context that ends later. -/
theorem pause_of_later {t : Timeline} {c : Context} {instant : Nat} {e : Error}
    (ends : t.ending? c = some (instant, e)) (later : t.now < instant) (nanos : Nat) :
    t.pause c nanos =
      if instant ≤ t.now + nanos then (some e, { t with now := instant })
      else (none, t.advance nanos) := by
  rw [pause, err?_of_later ends later, ends]

theorem err?_isContext {t : Timeline} {c : Context} {e : Error} (h : t.err? c = some e) :
    e.isContext = true := by
  unfold err? at h
  split at h
  · cases h
    rfl
  · split at h
    · cases h
      rfl
    · cases h

theorem ending?_isContext {t : Timeline} {c : Context} {instant : Nat} {e : Error}
    (h : t.ending? c = some (instant, e)) : e.isContext = true := by
  unfold ending? at h
  split at h
  · split at h <;> cases h <;> rfl
  · cases h
    rfl
  · cases h
    rfl
  · cases h

theorem pause_isContext {t after : Timeline} {c : Context} {nanos : Nat} {e : Error}
    (h : t.pause c nanos = (some e, after)) : e.isContext = true := by
  unfold pause at h
  split at h
  · rename_i e' ended
    cases h
    exact err?_isContext ended
  · split at h
    · rename_i instant e' ending
      split at h
      · cases h
        exact ending?_isContext ending
      · cases h
    · cases h

theorem untilEnd_isContext {t after : Timeline} {c : Context} {e : Error}
    (h : t.untilEnd c = some (e, after)) : e.isContext = true := by
  unfold untilEnd at h
  split at h
  · rename_i e' ended
    cases h
    exact err?_isContext ended
  · obtain ⟨⟨instant, e'⟩, ending, h⟩ := Option.map_eq_some_iff.mp h
    cases h
    exact ending?_isContext ending

end Timeline

/-- The body of a response is not read because the context ends or the body breaks off. -/
theorem Response.readBody_error {r : Response} {c : Context} {t after : Timeline} {e : Error}
    (h : r.readBody c t = some (.error e, after)) : e.isContext = true ∨ e = .transport none := by
  unfold readBody at h
  split at h
  · obtain ⟨⟨e', t'⟩, ended, h⟩ := Option.map_eq_some_iff.mp h
    cases h
    exact Or.inl (Timeline.untilEnd_isContext ended)
  · cases ended : t.err? c with
    | some e' =>
      rw [ended] at h
      cases h
      exact Or.inl (Timeline.err?_isContext ended)
    | none =>
      rw [ended] at h
      cases h
      exact Or.inr rfl
  · cases ended : t.err? c with
    | some e' =>
      rw [ended] at h
      cases h
      exact Or.inl (Timeline.err?_isContext ended)
    | none =>
      rw [ended] at h
      cases h

/-- Reading a body lets time go on and changes nothing else. -/
theorem Response.readBody_time {r : Response} {c : Context} {t after : Timeline}
    {bytes : Except Error ByteArray} (h : r.readBody c t = some (bytes, after)) :
    ∃ instant, t.now ≤ instant ∧ after = { t with now := instant } := by
  unfold readBody at h
  split at h
  · obtain ⟨⟨e, t'⟩, ended, h⟩ := Option.map_eq_some_iff.mp h
    cases h
    exact Timeline.untilEnd_time ended
  · cases h
    exact ⟨t.now, Nat.le_refl _, rfl⟩
  · cases h
    exact ⟨t.now, Nat.le_refl _, rfl⟩

/-- Under a context that has not ended only a body that never ends takes time. -/
theorem Response.readBody_of_live {r : Response} {c : Context} {t : Timeline}
    (live : t.err? c = none) :
    r.readBody c t = match r.bodyEnd with
      | .pending => (t.ending? c).map fun (instant, e) => (.error e, { t with now := instant })
      | .broken => some (.error (.transport none), t)
      | .complete => some (.ok r.body, t) := by
  unfold readBody Timeline.untilEnd
  rw [live]
  cases r.bodyEnd with
  | pending => cases t.ending? c <;> rfl
  | broken => rfl
  | complete => rfl

namespace World

variable {σ : Type}

/-- The world after some nanoseconds. -/
def after (w : World σ) (nanos : Nat) : World σ := { w with time := w.time.advance nanos }

@[simp] theorem ending?_after (w : World σ) (nanos : Nat) (c : Context) :
    (w.after nanos).time.ending? c = w.time.ending? c := rfl

theorem pause_isContext {w after : World σ} {c : Context} {nanos : Nat} {e : Error}
    (h : w.pause c nanos = (some e, after)) : e.isContext = true := by
  cases cut : w.time.pause c nanos with
  | mk ended time =>
    rw [pause, cut] at h
    cases h
    exact Timeline.pause_isContext cut

theorem pause_lasting {w : World σ} {c : Context} (lasts : w.time.ending? c = none) (nanos : Nat) :
    w.pause c nanos = (none, w.after nanos) := by
  rw [pause, Timeline.pause_lasting lasts]
  rfl

end World

end ExplorerClient
