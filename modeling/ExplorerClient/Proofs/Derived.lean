import ExplorerClient.Session.Run

/-!
# Families of contexts

A family is all the contexts that have been made from a first one, in the order in which they were
made, with how each was made and which have been cancelled. Contexts may be made, cancelled and left
to time in any order. The contexts of every session are those of a family (`Session.leads_family`).

Results:
* `Session.derive_token`, `Session.derive_deadline`: what a new context has from the old one.
* `Family.Sound.run`: every context of a family is what its making gives, no number is used for two
  tokens, and the cancellations are those that have been asked for.
-/

namespace ExplorerClient

/-! ## How contexts are made -/

namespace Derivation

/-- Has the new context the token of the old one? -/
def shares : Derivation → Bool
  | .clone | .token => true
  | _ => false

/-- Is the new context cancelled with the old one? -/
def obeys : Derivation → Bool
  | .background => false
  | _ => true

/-- Has the new context the deadlines of the old one? -/
def heeds : Derivation → Bool
  | .background | .token => false
  | _ => true

/-- The deadline that is given to a new context at an instant. -/
def given (now : Nat) : Derivation → Option Nat
  | .timeout nanos => some (now + nanos)
  | .deadline instant => some instant
  | _ => none

theorem obeys_of_shares {how : Derivation} (h : how.shares = true) : how.obeys = true := by
  cases how <;> first | rfl | simp [shares] at h

theorem obeys_of_heeds {how : Derivation} (h : how.heeds = true) : how.obeys = true := by
  cases how <;> first | rfl | simp [heeds] at h

theorem heeds_of_given {how : Derivation} {now x : Nat} (h : how.given now = some x) :
    how.heeds = true := by
  cases how <;> first | rfl | simp [given] at h

end Derivation

theorem Session.derive_token (t : Timeline) (p : Context) (how : Derivation) :
    (Session.derive t p how).1.token =
      if how.shares then p.token else ⟨t.fresh :: if how.obeys then p.token.path else []⟩ := by
  cases how <;> rfl

theorem Session.derive_deadline (t : Timeline) (p : Context) (how : Derivation) :
    (Session.derive t p how).1.deadline =
      match how.given t.now with
      | some x => some (Timeline.earlier p.deadline x)
      | none => if how.heeds then p.deadline else none := by
  cases how <;> rfl

theorem Session.derive_time (t : Timeline) (p : Context) (how : Derivation) :
    (Session.derive t p how).2 = { t with fresh := if how.shares then t.fresh else t.fresh + 1 } := by
  cases how <;> rfl

/-! ## Families -/

/-- A context of a family and how it was made. -/
structure Member where
  context : Context
  /-- The place of the context that it was made from. -/
  parent : Nat
  how : Derivation
  /-- The instant at which it was made. -/
  instant : Nat

/-- The contexts that have been made, by places, and the places of those that have been
cancelled. -/
structure Family where
  time : Timeline
  members : List Member
  cancelled : List Nat

/-- What is done to a family. -/
inductive Deed where
  | derive (parent : Nat) (how : Derivation)
  | cancel (place : Nat)
  | advance (nanos : Nat)

namespace Family

/-- The family of the context that every session starts with. -/
def start : Family := ⟨.start, [⟨⟨⟨[0]⟩, none⟩, 0, .background, 0⟩], []⟩

/-- The family after a deed. A deed to a place where no context is does nothing. -/
def step (f : Family) : Deed → Family
  | .derive parent how =>
    match f.members[parent]? with
    | none => f
    | some p =>
      let (c, time) := Session.derive f.time p.context how
      { f with time, members := f.members ++ [⟨c, parent, how, f.time.now⟩] }
  | .cancel place =>
    match f.members[place]? with
    | none => f
    | some m => { f with time := f.time.cancel m.context, cancelled := place :: f.cancelled }
  | .advance nanos => { f with time := f.time.advance nanos }

/-- The family after some deeds. -/
def run (f : Family) (deeds : List Deed) : Family := deeds.foldl step f

/-! ## What holds of every family -/

/-- The context at a place is what its making gives, from an older context. -/
def Made (f : Family) (i : Nat) (m : Member) : Prop :=
  ∃ (p : Context) (t : Timeline), t.now = m.instant ∧ (Session.derive t p m.how).1 = m.context ∧
    (m.how.obeys = true →
      m.parent < i ∧ ∃ q, f.members[m.parent]? = some q ∧ q.context = p)

/-- What is kept by all deeds. -/
structure Sound (f : Family) : Prop where
  made : ∀ (i : Nat) (m : Member), f.members[i]? = some m → f.Made i m
  /-- No number is used for two tokens. -/
  minted : ∀ (i j : Nat) (m l : Member), f.members[i]? = some m → f.members[j]? = some l →
    m.how.shares = false → l.how.shares = false →
    m.context.token.path.head? = l.context.token.path.head? → i = j
  fresh : ∀ (i : Nat) (m : Member), f.members[i]? = some m →
    ∀ n ∈ m.context.token.path, n < f.time.fresh
  /-- Nothing else has been cancelled, and nothing is still to be. -/
  past : ∀ e ∈ f.time.cancellations, e.2 ≤ f.time.now ∧
    ∃ k ∈ f.cancelled, ∃ m : Member, f.members[k]? = some m ∧ m.context.token = e.1
  noted : ∀ k ∈ f.cancelled, ∃ m : Member, f.members[k]? = some m ∧
    ∃ instant, (m.context.token, instant) ∈ f.time.cancellations

theorem start_eq {i : Nat} {m : Member} (there : start.members[i]? = some m) :
    i = 0 ∧ m = ⟨⟨⟨[0]⟩, none⟩, 0, .background, 0⟩ := by
  cases i with
  | zero => exact ⟨rfl, (Option.some.inj there).symm⟩
  | succ i => cases there

theorem sound_start : start.Sound where
  made i m there := by
    obtain ⟨rfl, rfl⟩ := start_eq there
    exact ⟨⟨⟨[]⟩, none⟩, ⟨0, [], 0⟩, rfl, rfl, fun obeys => by cases obeys⟩
  minted i j m l here there _ _ _ := (start_eq here).1.trans (start_eq there).1.symm
  fresh i m there n among := by
    obtain ⟨rfl, rfl⟩ := start_eq there
    obtain rfl := List.mem_singleton.1 among
    decide
  past e among := by cases among
  noted k among := by cases among

/-- The contexts of a family with one more. -/
theorem getElem?_append_one {ms : List Member} {new m : Member} {i : Nat}
    (there : (ms ++ [new])[i]? = some m) : ms[i]? = some m ∨ i = ms.length ∧ m = new := by
  rcases Nat.lt_trichotomy i ms.length with before | rfl | behind
  · rw [List.getElem?_append_left before] at there
    exact .inl there
  · rw [List.getElem?_concat_length] at there
    exact .inr ⟨rfl, (Option.some.inj there).symm⟩
  · rw [List.getElem?_eq_none (by simp; omega)] at there
    cases there

theorem getElem?_append_of_some {ms : List Member} {m : Member} {i : Nat} (there : ms[i]? = some m)
    (new : Member) : (ms ++ [new])[i]? = some m := by
  rw [List.getElem?_append_left (List.getElem?_eq_some_iff.1 there).1, there]

theorem Made.extend {f g : Family} {i : Nat} {m : Member} (h : f.Made i m)
    (kept : ∀ (j : Nat) (q : Member), f.members[j]? = some q → g.members[j]? = some q) : g.Made i m := by
  obtain ⟨p, t, now, made, older⟩ := h
  refine ⟨p, t, now, made, fun obeys => ?_⟩
  obtain ⟨before, q, there, same⟩ := older obeys
  exact ⟨before, q, kept _ q there, same⟩

theorem Sound.derive {f : Family} (h : f.Sound) {parent : Nat} {p : Member}
    (found : f.members[parent]? = some p) (how : Derivation) :
    (f.step (.derive parent how)).Sound := by
  have token := Session.derive_token f.time p.context how
  have time := Session.derive_time f.time p.context how
  simp only [step, found]
  generalize derived : Session.derive f.time p.context how = r at *
  obtain ⟨c, time'⟩ := r
  simp only at token time ⊢
  subst time
  generalize new_eq : (⟨c, parent, how, f.time.now⟩ : Member) = new
  have inside : parent < f.members.length := (List.getElem?_eq_some_iff.1 found).1
  have kept : ∀ (j : Nat) (q : Member), f.members[j]? = some q → (f.members ++ [new])[j]? = some q :=
    fun j q there => getElem?_append_of_some there new
  -- a new number is above all that are in use
  have unused : ∀ (i : Nat) (m : Member), f.members[i]? = some m →
      new.how.shares = false → m.context.token.path.head? ≠ new.context.token.path.head? := by
    intro i m there shares same
    rw [← new_eq] at same shares
    simp only [token, shares, Bool.false_eq_true, if_false, List.head?_cons] at same
    have below := h.fresh i m there f.time.fresh (List.mem_of_mem_head? same)
    omega
  constructor
  · intro i m there
    rcases getElem?_append_one there with old | ⟨rfl, rfl⟩
    · exact (h.made i m old).extend kept
    · subst new_eq
      exact ⟨p.context, f.time, rfl, by rw [derived], fun _ => ⟨inside, p, kept _ p found, rfl⟩⟩
  · intro i j m l here there notShared notShared' same
    rcases getElem?_append_one here with old | ⟨rfl, rfl⟩ <;>
      rcases getElem?_append_one there with old' | ⟨rfl, rfl⟩
    · exact h.minted i j m l old old' notShared notShared' same
    · exact absurd same (unused i m old notShared')
    · exact absurd same.symm (unused j l old' notShared)
    · rfl
  · intro i m there n among
    have grown : f.time.fresh ≤ if how.shares then f.time.fresh else f.time.fresh + 1 := by
      split <;> omega
    rcases getElem?_append_one there with old | ⟨rfl, rfl⟩
    · have below := h.fresh i m old n among
      exact Nat.lt_of_lt_of_le below grown
    · have parents := h.fresh parent p found n
      simp only [← new_eq, token] at among ⊢
      split at among
      · exact Nat.lt_of_lt_of_le (parents among) grown
      · rename_i shares
        rw [if_neg shares]
        rcases List.mem_cons.1 among with rfl | up
        · omega
        · split at up
          · have := parents up
            omega
          · cases up
  · intro e among
    obtain ⟨before, k, cancelled, m, there, same⟩ := h.past e among
    exact ⟨before, k, cancelled, m, kept k m there, same⟩
  · intro k among
    obtain ⟨m, there, noted⟩ := h.noted k among
    exact ⟨m, kept k m there, noted⟩

theorem Sound.cancel {f : Family} (h : f.Sound) {place : Nat} {m : Member}
    (found : f.members[place]? = some m) : (f.step (.cancel place)).Sound := by
  simp only [step, found]
  constructor
  · exact fun i l there => (h.made i l there).extend fun _ _ same => same
  · exact h.minted
  · exact h.fresh
  · intro e among
    rcases List.mem_cons.1 among with rfl | old
    · exact ⟨Nat.le_refl _, place, List.mem_cons_self, m, found, rfl⟩
    · obtain ⟨before, k, cancelled, known⟩ := h.past e old
      exact ⟨before, k, List.mem_cons_of_mem place cancelled, known⟩
  · intro k among
    rcases List.mem_cons.1 among with rfl | old
    · exact ⟨m, found, f.time.now, List.mem_cons_self⟩
    · obtain ⟨l, there, instant, noted⟩ := h.noted k old
      exact ⟨l, there, instant, List.mem_cons_of_mem _ noted⟩

theorem Sound.advance {f : Family} (h : f.Sound) (nanos : Nat) :
    (f.step (.advance nanos)).Sound := by
  constructor
  · exact fun i l there => (h.made i l there).extend fun _ _ same => same
  · exact h.minted
  · exact h.fresh
  · intro e among
    obtain ⟨before, known⟩ := h.past e among
    exact ⟨Nat.le_trans before (Nat.le_add_right _ _), known⟩
  · exact h.noted

theorem Sound.step {f : Family} (h : f.Sound) (deed : Deed) : (f.step deed).Sound := by
  cases deed with
  | derive parent how =>
    cases found : f.members[parent]? with
    | none =>
      simp only [Family.step, found]
      exact h
    | some p => exact h.derive found how
  | cancel place =>
    cases found : f.members[place]? with
    | none =>
      simp only [Family.step, found]
      exact h
    | some m => exact h.cancel found
  | advance nanos => exact h.advance nanos

theorem Sound.run {f : Family} (h : f.Sound) (deeds : List Deed) : (f.run deeds).Sound := by
  induction deeds generalizing f with
  | nil => exact h
  | cons deed deeds ih => exact ih (h.step deed)

end Family

end ExplorerClient
