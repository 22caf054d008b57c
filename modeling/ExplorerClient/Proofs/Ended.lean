import ExplorerClient.Proofs.Derived
import Mathlib.Logic.Relation
import Mathlib.Order.Bounds.Basic

/-!
# When contexts end

Whether a context has ended is a matter of two kinds of descent, which follow from how contexts
were made. A cancellation goes down to all contexts that were made from the one that is cancelled,
or from one with the same token, whereas a deadline stays behind where a context is made from a
token alone. Which tokens are equal is not asked: that two contexts have the same token follows from
how they were made.

Results:
* `Family.Sound.suffix_iff_reaches`: the token of one context descends from that of another exactly
  if cancelling the other reaches it.
* `Family.Sound.least_given`: the deadline of a context is the least that was given on its way.
* `Family.run_ends`: which contexts have ended and with what error, after anything that is done.
-/

namespace ExplorerClient

/-! ## Errors of contexts -/

namespace Timeline

variable {t t' : Timeline} {c : Context} {e : Error}

theorem isCancelled_iff : t.isCancelled c = true ↔
    ∃ e ∈ t.cancellations, e.1.path <:+ c.token.path ∧ e.2 ≤ t.now := by
  simp only [isCancelled, cancelInstants, List.any_eq_true, List.mem_map, List.mem_filter,
    Token.descendsFrom, List.isSuffixOf_iff_suffix, decide_eq_true_eq]
  constructor
  · rintro ⟨_, ⟨e, ⟨among, suffix⟩, rfl⟩, before⟩
    exact ⟨e, among, suffix, before⟩
  · rintro ⟨e, among, suffix, before⟩
    exact ⟨e.2, ⟨e, ⟨among, suffix⟩, rfl⟩, before⟩

theorem isOverdue_iff : t.isOverdue c = true ↔ ∃ d, c.deadline = some d ∧ d ≤ t.now := by
  rw [isOverdue, Option.any_eq_true]
  simp

theorem err?_eq_canceled_iff : t.err? c = some .canceled ↔ t.isCancelled c = true := by
  rw [err?]
  split
  · simp_all
  · split <;> simp_all

theorem err?_eq_deadlineExceeded_iff : t.err? c = some .deadlineExceeded ↔
    t.isCancelled c = false ∧ t.isOverdue c = true := by
  rw [err?]
  split
  · simp_all
  · split <;> simp_all

theorem err?_eq_none_iff :
    t.err? c = none ↔ t.isCancelled c = false ∧ t.isOverdue c = false := by
  rw [err?]
  split
  · simp_all
  · split <;> simp_all

theorem isSome_err?_iff :
    (t.err? c).isSome = true ↔ t.isCancelled c = true ∨ t.isOverdue c = true := by
  rw [err?]
  split
  · simp_all
  · split <;> simp_all

/-- A cancellation of a token that a context does not descend from changes nothing of it. -/
theorem err?_cancel {d : Context} (apart : c.token.descendsFrom d.token = false) :
    (t.cancel d).err? c = t.err? c := by
  have instants : (t.cancel d).cancelInstants c = t.cancelInstants c := by
    simp [cancel, cancelAt, cancelInstants, apart]
  simp only [err?, isCancelled, isOverdue, instants]
  rfl

/-- With more cancellations and at a later time a context that has ended is still so. -/
theorem err?_of_more (now : t.now ≤ t'.now) (more : t.cancellations ⊆ t'.cancellations)
    (ended : t.err? c = some e) :
    t'.err? c = some e ∨ e = .deadlineExceeded ∧ t'.err? c = some .canceled := by
  cases cancelled' : t'.isCancelled c with
  | true =>
    have now' := err?_eq_canceled_iff.2 cancelled'
    rw [err?] at ended
    split at ended
    · exact .inl (now'.trans ended)
    · split at ended
      · exact .inr ⟨(Option.some.inj ended).symm, now'⟩
      · cases ended
  | false =>
    have cancelled : t.isCancelled c = false := by
      rw [Bool.eq_false_iff, ne_eq, isCancelled_iff] at cancelled' ⊢
      rintro ⟨e, among, suffix, before⟩
      exact cancelled' ⟨e, more among, suffix, Nat.le_trans before now⟩
    rw [err?, cancelled, if_neg Bool.false_ne_true] at ended
    split at ended
    · rename_i overdue
      obtain ⟨d, deadline, before⟩ := isOverdue_iff.1 overdue
      have overdue' := isOverdue_iff.2 ⟨d, deadline, Nat.le_trans before now⟩
      exact .inl ((err?_eq_deadlineExceeded_iff.2 ⟨cancelled', overdue'⟩).trans ended)
    · cases ended

end Timeline

namespace Family

/-! ## What reaches a context -/

/-- Was the context at `i` made from the one at `j`, and not for itself? -/
def MadeFrom (f : Family) (i j : Nat) : Prop :=
  ∃ m, f.members[i]? = some m ∧ m.how.obeys = true ∧ m.parent = j

/-- Was the context at `i` made with the token of the one at `j`? -/
def Linked (f : Family) (i j : Nat) : Prop :=
  ∃ m, f.members[i]? = some m ∧ m.how.shares = true ∧ m.parent = j

/-- Was the context at `i` made with the deadline of the one at `j`? -/
def BoundBy (f : Family) (i j : Nat) : Prop :=
  ∃ m, f.members[i]? = some m ∧ m.how.heeds = true ∧ m.parent = j

/-- Cancelling the context at `k` reaches the one at `i`: it has the same token as that one, or as
one of those that that one was made from. -/
def Reaches (f : Family) (k i : Nat) : Prop :=
  ∃ a, Relation.ReflTransGen f.MadeFrom i a ∧ Relation.EqvGen f.Linked a k

/-- A deadline was given to the context at `i`, or to one whose deadlines it has. -/
inductive Given (f : Family) : Nat → Nat → Prop
  | own {i x : Nat} {m : Member} (there : f.members[i]? = some m)
      (given : m.how.given m.instant = some x) : Given f i x
  | inherited {i x : Nat} {m : Member} (there : f.members[i]? = some m)
      (heeds : m.how.heeds = true) (given : Given f m.parent x) : Given f i x


/-! ## Tokens -/

section Tokens

variable {f : Family} {i k : Nat} {m l : Member}

theorem Sound.token_of_shares (h : f.Sound) (there : f.members[i]? = some m)
    (shares : m.how.shares = true) : m.parent < i ∧
      ∃ q, f.members[m.parent]? = some q ∧ m.context.token = q.context.token := by
  obtain ⟨p, t, -, made, older⟩ := h.made i m there
  obtain ⟨before, q, found, rfl⟩ := older (Derivation.obeys_of_shares shares)
  refine ⟨before, q, found, ?_⟩
  rw [← made, Session.derive_token, if_pos shares]

theorem Sound.token_of_obeys (h : f.Sound) (there : f.members[i]? = some m)
    (shares : m.how.shares = false) (obeys : m.how.obeys = true) : m.parent < i ∧
      ∃ q n, f.members[m.parent]? = some q ∧
        m.context.token.path = n :: q.context.token.path := by
  obtain ⟨p, t, -, made, older⟩ := h.made i m there
  obtain ⟨before, q, found, rfl⟩ := older obeys
  refine ⟨before, q, t.fresh, found, ?_⟩
  rw [← made, Session.derive_token, shares, obeys]
  rfl

theorem Sound.token_of_background (h : f.Sound) (there : f.members[i]? = some m)
    (obeys : m.how.obeys = false) : ∃ n, m.context.token.path = [n] := by
  obtain ⟨p, t, -, made, -⟩ := h.made i m there
  have shares : m.how.shares = false := by
    cases shared : m.how.shares with
    | false => rfl
    | true => rw [Derivation.obeys_of_shares shared] at obeys; cases obeys
  refine ⟨t.fresh, ?_⟩
  rw [← made, Session.derive_token, shares, obeys]
  rfl

theorem Sound.path_ne_nil (h : f.Sound) (there : f.members[i]? = some m) :
    m.context.token.path ≠ [] := by
  induction i using Nat.strong_induction_on generalizing m with
  | _ i ih =>
    cases shares : m.how.shares with
    | true =>
      obtain ⟨before, q, found, same⟩ := h.token_of_shares there shares
      rw [same]
      exact ih m.parent before found
    | false =>
      cases obeys : m.how.obeys with
      | true =>
        obtain ⟨-, q, n, -, path⟩ := h.token_of_obeys there shares obeys
        rw [path]
        exact List.cons_ne_nil n _
      | false =>
        obtain ⟨n, path⟩ := h.token_of_background there obeys
        rw [path]
        exact List.cons_ne_nil n _

/-- Every token was new for one context, and goes back to it by making contexts with its token. -/
theorem Sound.origin (h : f.Sound) (there : f.members[i]? = some m) :
    ∃ o r, f.members[o]? = some r ∧ r.how.shares = false ∧
      r.context.token = m.context.token ∧ Relation.EqvGen f.Linked i o := by
  induction i using Nat.strong_induction_on generalizing m with
  | _ i ih =>
    cases shares : m.how.shares with
    | false => exact ⟨i, m, there, shares, rfl, .refl i⟩
    | true =>
      obtain ⟨before, q, found, same⟩ := h.token_of_shares there shares
      obtain ⟨o, r, old, notShared, token, linked⟩ := ih m.parent before found
      exact ⟨o, r, old, notShared, token.trans same.symm,
        .trans _ _ _ (.rel _ _ ⟨m, there, shares, rfl⟩) linked⟩

theorem Sound.linked_of_token (h : f.Sound) (here : f.members[i]? = some m)
    (there : f.members[k]? = some l) (same : m.context.token = l.context.token) :
    Relation.EqvGen f.Linked i k := by
  obtain ⟨o, r, old, notShared, token, linked⟩ := h.origin here
  obtain ⟨o', r', old', notShared', token', linked'⟩ := h.origin there
  have one : o = o' := h.minted o o' r r' old old' notShared notShared' (by
    rw [token, token', same])
  subst one
  exact .trans _ _ _ linked (.symm _ _ linked')

/-- The path of the token at a place, which is empty where there is none. -/
def pathAt (f : Family) (i : Nat) : List Nat :=
  match f.members[i]? with
  | some m => m.context.token.path
  | none => []

theorem pathAt_eq (there : f.members[i]? = some m) : f.pathAt i = m.context.token.path := by
  rw [pathAt, there]

theorem Sound.pathAt_of_linked (h : f.Sound) (linked : Relation.EqvGen f.Linked i k) :
    f.pathAt i = f.pathAt k := by
  induction linked with
  | rel a b link =>
    obtain ⟨m, there, shares, rfl⟩ := link
    obtain ⟨-, q, found, same⟩ := h.token_of_shares there shares
    rw [pathAt_eq there, pathAt_eq found, same]
  | refl a => rfl
  | symm a b _ ih => exact ih.symm
  | trans a b c _ _ first second => exact first.trans second

theorem Sound.pathAt_of_madeFrom (h : f.Sound) (made : Relation.ReflTransGen f.MadeFrom i k) :
    f.pathAt k <:+ f.pathAt i := by
  induction made with
  | refl => exact List.suffix_refl _
  | tail _ link ih =>
    obtain ⟨m, there, obeys, rfl⟩ := link
    refine List.IsSuffix.trans ?_ ih
    cases shares : m.how.shares with
    | true =>
      obtain ⟨-, q, found, same⟩ := h.token_of_shares there shares
      simp only [pathAt_eq there, pathAt_eq found, same, List.suffix_rfl]
    | false =>
      obtain ⟨-, q, n, found, path⟩ := h.token_of_obeys there shares obeys
      rw [pathAt_eq there, pathAt_eq found, path]
      exact List.suffix_cons n _

theorem Reaches.of_madeFrom {j : Nat} (reaches : f.Reaches k j) (made : f.MadeFrom i j) :
    f.Reaches k i := by
  obtain ⟨a, above, linked⟩ := reaches
  exact ⟨a, .head made above, linked⟩

/-- The induction goes up from the descending context: what its token has in front was new when it
was made, so the token of the other is its own or that of one above. -/
theorem Sound.reaches_of_suffix (h : f.Sound) (here : f.members[i]? = some m)
    (there : f.members[k]? = some l)
    (suffix : l.context.token.path <:+ m.context.token.path) : f.Reaches k i := by
  induction i using Nat.strong_induction_on generalizing m with
  | _ i ih =>
    by_cases same : m.context.token.path = l.context.token.path
    · have token : m.context.token = l.context.token := congrArg Token.mk same
      exact ⟨i, .refl, h.linked_of_token here there token⟩
    · cases shares : m.how.shares with
      | true =>
        obtain ⟨before, q, found, shared⟩ := h.token_of_shares here shares
        rw [shared] at suffix
        exact (ih m.parent before found suffix).of_madeFrom
          ⟨m, here, Derivation.obeys_of_shares shares, rfl⟩
      | false =>
        cases obeys : m.how.obeys with
        | true =>
          obtain ⟨before, q, n, found, path⟩ := h.token_of_obeys here shares obeys
          rw [path] at suffix same
          rcases List.suffix_cons_iff.1 suffix with whole | above
          · exact absurd whole.symm same
          · exact (ih m.parent before found above).of_madeFrom ⟨m, here, obeys, rfl⟩
        | false =>
          obtain ⟨n, path⟩ := h.token_of_background here obeys
          rw [path] at suffix same
          rcases List.suffix_cons_iff.1 suffix with whole | above
          · exact absurd whole.symm same
          · exact absurd (List.suffix_nil.1 above) (h.path_ne_nil there)

/-- The token of one context descends from that of another exactly if cancelling the other
reaches it. -/
theorem Sound.suffix_iff_reaches (h : f.Sound) (here : f.members[i]? = some m)
    (there : f.members[k]? = some l) :
    l.context.token.path <:+ m.context.token.path ↔ f.Reaches k i := by
  constructor
  · exact h.reaches_of_suffix here there
  · rintro ⟨a, above, linked⟩
    rw [← pathAt_eq here, ← pathAt_eq there, ← h.pathAt_of_linked linked]
    exact h.pathAt_of_madeFrom above

end Tokens

/-! ## Deadlines -/

section Deadlines

variable {f : Family} {i : Nat} {m : Member}

/-- An instant, or none, is the least of some instants. -/
def Least (deadline : Option Nat) (instants : Set Nat) : Prop :=
  (∀ x ∈ instants, ∃ d, deadline = some d ∧ d ≤ x) ∧ ∀ d, deadline = some d → d ∈ instants

theorem Least.eq_some_iff {deadline : Option Nat} {instants : Set Nat}
    (h : Least deadline instants) (d : Nat) : deadline = some d ↔ IsLeast instants d := by
  constructor
  · rintro rfl
    refine ⟨h.2 d rfl, fun x among => ?_⟩
    obtain ⟨_, ⟨⟩, below⟩ := h.1 x among
    exact below
  · rintro ⟨among, lower⟩
    obtain ⟨e, rfl, below⟩ := h.1 d among
    rw [Nat.le_antisymm below (lower (h.2 e rfl))]

theorem Least.eq_none_iff {deadline : Option Nat} {instants : Set Nat}
    (h : Least deadline instants) : deadline = none ↔ instants = ∅ := by
  constructor
  · rintro rfl
    refine Set.eq_empty_of_forall_notMem fun x among => ?_
    obtain ⟨_, ⟨⟩, -⟩ := h.1 x among
  · rintro rfl
    cases deadline with
    | none => rfl
    | some d => exact absurd (h.2 d rfl) (Set.notMem_empty d)

theorem Least.earlier {deadline : Option Nat} {instants : Set Nat} (h : Least deadline instants)
    (x : Nat) : Least (some (Timeline.earlier deadline x)) (insert x instants) := by
  cases deadline with
  | none =>
    rw [h.eq_none_iff.1 rfl]
    constructor
    · rintro y (rfl | ⟨⟨⟩⟩)
      exact ⟨y, rfl, Nat.le_refl y⟩
    · rintro d ⟨⟩
      exact .inl rfl
  | some e =>
    have least := (h.eq_some_iff e).1 rfl
    constructor
    · rintro y (rfl | among)
      · exact ⟨_, rfl, Nat.min_le_right e y⟩
      · exact ⟨_, rfl, Nat.le_trans (Nat.min_le_left e x) (least.2 among)⟩
    · rintro d ⟨⟩
      rw [Timeline.earlier]
      rcases Nat.le_total e x with below | above
      · rw [Nat.min_eq_left below]
        exact .inr least.1
      · exact .inl (Nat.min_eq_right above)

/-- What was given to a context: its own deadline, and those it has from the one before. -/
theorem given_iff (there : f.members[i]? = some m) (x : Nat) :
    f.Given i x ↔ m.how.given m.instant = some x ∨ m.how.heeds = true ∧ f.Given m.parent x := by
  constructor
  · rintro (⟨found, given⟩ | ⟨found, heeds, given⟩)
    · obtain rfl := Option.some.inj (there.symm.trans found)
      exact .inl given
    · obtain rfl := Option.some.inj (there.symm.trans found)
      exact .inr ⟨heeds, given⟩
  · rintro (given | ⟨heeds, given⟩)
    · exact .own there given
    · exact .inherited there heeds given

/-- The deadline of a context is the least of those that were given on its way. -/
theorem Sound.least_given (h : f.Sound) (there : f.members[i]? = some m) :
    Least m.context.deadline {x | f.Given i x} := by
  induction i using Nat.strong_induction_on generalizing m with
  | _ i ih =>
    obtain ⟨p, t, now, made, older⟩ := h.made i m there
    have deadline := Session.derive_deadline t p m.how
    rw [made, now] at deadline
    rw [deadline]
    simp only [given_iff there]
    -- the deadlines of the context before, where they count
    have before (heeds : m.how.heeds = true) : Least p.deadline {x | f.Given m.parent x} := by
      obtain ⟨lower, q, found, rfl⟩ := older (Derivation.obeys_of_heeds heeds)
      exact ih m.parent lower found
    cases given : m.how.given m.instant with
    | some x =>
      have heeds := Derivation.heeds_of_given given
      have both := (before heeds).earlier x
      have instants : {y | some x = some y ∨ m.how.heeds = true ∧ f.Given m.parent y} =
          insert x {y | f.Given m.parent y} := by
        ext y
        simp [heeds, eq_comm]
      rw [instants]
      exact both
    | none =>
      cases heeds : m.how.heeds with
      | true => simpa using before heeds
      | false => simp [Least]

end Deadlines

/-! ## Later families -/

/-- The context at a place. -/
def contextAt (f : Family) (i : Nat) : Option Context := (f.members[i]?).map (·.context)

theorem contextAt_eq_some_iff {f : Family} {i : Nat} {c : Context} :
    f.contextAt i = some c ↔ ∃ m, f.members[i]? = some m ∧ m.context = c := Option.map_eq_some_iff

/-- All that is there in one family is there in the other, too. -/
structure Later (f g : Family) : Prop where
  members : ∀ (i : Nat) (m : Member), f.members[i]? = some m → g.members[i]? = some m
  now : f.time.now ≤ g.time.now
  cancellations : f.time.cancellations ⊆ g.time.cancellations

theorem Later.refl (f : Family) : f.Later f := ⟨fun _ _ => id, Nat.le_refl _, fun _ => id⟩

theorem Later.trans {f g h : Family} (first : f.Later g) (second : g.Later h) : f.Later h where
  members i m there := second.members i m (first.members i m there)
  now := Nat.le_trans first.now second.now
  cancellations := List.Subset.trans first.cancellations second.cancellations

theorem later_step (f : Family) (deed : Deed) : f.Later (f.step deed) := by
  cases deed with
  | derive parent how =>
    cases found : f.members[parent]? with
    | none =>
      simp only [step, found]
      exact .refl f
    | some p =>
      have time := Session.derive_time f.time p.context how
      simp only [step, found]
      refine ⟨fun i m there => getElem?_append_of_some there _, ?_, ?_⟩
      · rw [time]
      · rw [time]
        exact List.Subset.refl _
  | cancel place =>
    cases found : f.members[place]? with
    | none =>
      simp only [step, found]
      exact .refl f
    | some m =>
      simp only [step, found]
      exact ⟨fun _ _ => id, Nat.le_refl _, List.subset_cons_self _ _⟩
  | advance nanos => exact ⟨fun _ _ => id, Nat.le_add_right _ _, List.Subset.refl _⟩

theorem later_run (f : Family) (deeds : List Deed) : f.Later (f.run deeds) := by
  induction deeds generalizing f with
  | nil => exact .refl f
  | cons deed deeds ih => exact (f.later_step deed).trans (ih (f.step deed))

/-! ## When contexts end -/

/-- When the context at a place has ended, and with what error. -/
structure Ends (f : Family) (i : Nat) (c : Context) : Prop where
  /-- It is cancelled exactly if a cancellation has reached it. -/
  canceled : f.time.err? c = some .canceled ↔ ∃ k ∈ f.cancelled, f.Reaches k i
  /-- Otherwise it has ended exactly if the least of its deadlines has come. -/
  overdue : f.time.err? c = some .deadlineExceeded ↔
    (∀ k ∈ f.cancelled, ¬ f.Reaches k i) ∧ ∃ d, IsLeast {x | f.Given i x} d ∧ d ≤ f.time.now
  live : f.time.err? c = none ↔
    (∀ k ∈ f.cancelled, ¬ f.Reaches k i) ∧ ∀ x, f.Given i x → f.time.now < x
  /-- The least of its deadlines is its deadline. -/
  deadline : ∀ d, c.deadline = some d ↔ IsLeast {x | f.Given i x} d
  unbounded : c.deadline = none ↔ ∀ x, ¬ f.Given i x
  /-- Whatever is done, it stays and does not come back to life. -/
  lasts : ∀ deeds, (f.run deeds).contextAt i = some c ∧ ∀ e, f.time.err? c = some e →
    (f.run deeds).time.err? c = some e ∨
      e = .deadlineExceeded ∧ (f.run deeds).time.err? c = some .canceled
  /-- With it have ended all that were made from it and have its deadlines. -/
  heirs : ∀ j c', f.contextAt j = some c' → Relation.ReflTransGen f.BoundBy j i →
    (f.time.err? c).isSome = true → (f.time.err? c').isSome = true
  /-- A cancellation that does not reach it changes nothing of it. -/
  spared : ∀ k, ¬ f.Reaches k i → (f.step (.cancel k)).contextAt i = some c ∧
    (f.step (.cancel k)).time.err? c = f.time.err? c

section Ends

variable {f : Family} {i j k : Nat} {m l : Member}

theorem Sound.isCancelled_iff (h : f.Sound) (there : f.members[i]? = some m) :
    f.time.isCancelled m.context = true ↔ ∃ k ∈ f.cancelled, f.Reaches k i := by
  rw [Timeline.isCancelled_iff]
  constructor
  · rintro ⟨e, among, suffix, -⟩
    obtain ⟨-, k, cancelled, l, known, token⟩ := h.past e among
    rw [← token] at suffix
    exact ⟨k, cancelled, (h.suffix_iff_reaches there known).1 suffix⟩
  · rintro ⟨k, cancelled, reaches⟩
    obtain ⟨l, known, instant, noted⟩ := h.noted k cancelled
    exact ⟨_, noted, (h.suffix_iff_reaches there known).2 reaches, (h.past _ noted).1⟩

theorem Sound.isCancelled_eq_false_iff (h : f.Sound) (there : f.members[i]? = some m) :
    f.time.isCancelled m.context = false ↔ ∀ k ∈ f.cancelled, ¬ f.Reaches k i := by
  rw [Bool.eq_false_iff, ne_eq, h.isCancelled_iff there]
  simp

theorem Sound.isOverdue_iff (h : f.Sound) (there : f.members[i]? = some m) :
    f.time.isOverdue m.context = true ↔ ∃ d, IsLeast {x | f.Given i x} d ∧ d ≤ f.time.now := by
  simp only [Timeline.isOverdue_iff, (h.least_given there).eq_some_iff]

theorem Sound.isOverdue_eq_false_iff (h : f.Sound) (there : f.members[i]? = some m) :
    f.time.isOverdue m.context = false ↔ ∀ x, f.Given i x → f.time.now < x := by
  have least := h.least_given there
  rw [Bool.eq_false_iff, ne_eq, Timeline.isOverdue_iff]
  constructor
  · intro early x given
    obtain ⟨d, deadline, below⟩ := least.1 x given
    by_contra late
    exact early ⟨d, deadline, by omega⟩
  · rintro early ⟨d, deadline, late⟩
    have := early d (least.2 d deadline)
    omega

theorem madeFrom_of_boundBy (bound : f.BoundBy i j) : f.MadeFrom i j := by
  obtain ⟨m, there, heeds, parent⟩ := bound
  exact ⟨m, there, Derivation.obeys_of_heeds heeds, parent⟩

theorem Reaches.heir (reaches : f.Reaches k i) (bound : Relation.ReflTransGen f.BoundBy j i) :
    f.Reaches k j := by
  obtain ⟨a, above, linked⟩ := reaches
  have made : Relation.ReflTransGen f.MadeFrom j i :=
    Relation.ReflTransGen.mono (fun _ _ => madeFrom_of_boundBy) _ _ bound
  exact ⟨a, made.trans above, linked⟩

theorem Given.heir {x : Nat} (given : f.Given i x) (bound : Relation.ReflTransGen f.BoundBy j i) :
    f.Given j x := by
  induction bound using Relation.ReflTransGen.head_induction_on with
  | refl => exact given
  | head link _ ih =>
    obtain ⟨m, there, heeds, rfl⟩ := link
    exact .inherited there heeds ih

theorem Sound.heir_ended (h : f.Sound) (here : f.members[i]? = some m)
    (there : f.members[j]? = some l) (bound : Relation.ReflTransGen f.BoundBy j i)
    (ended : (f.time.err? m.context).isSome = true) : (f.time.err? l.context).isSome = true := by
  rw [Timeline.isSome_err?_iff] at ended ⊢
  rcases ended with cancelled | overdue
  · obtain ⟨k, among, reaches⟩ := (h.isCancelled_iff here).1 cancelled
    exact .inl ((h.isCancelled_iff there).2 ⟨k, among, reaches.heir bound⟩)
  · obtain ⟨d, deadline, late⟩ := Timeline.isOverdue_iff.1 overdue
    have given : f.Given j d := ((h.least_given here).2 d deadline).heir bound
    obtain ⟨d', deadline', below⟩ := (h.least_given there).1 d given
    exact .inr (Timeline.isOverdue_iff.2 ⟨d', deadline', Nat.le_trans below late⟩)

/-- What is cancelled afterwards and does not reach a context leaves no trace on it. -/
theorem Sound.spared (h : f.Sound) (there : f.members[i]? = some m) (apart : ¬ f.Reaches k i) :
    (f.step (.cancel k)).time.err? m.context = f.time.err? m.context := by
  cases found : f.members[k]? with
  | none => simp only [Family.step, found]
  | some l =>
    have unrelated : m.context.token.descendsFrom l.context.token = false := by
      rw [Bool.eq_false_iff, ne_eq, Token.descendsFrom, List.isSuffixOf_iff_suffix,
        h.suffix_iff_reaches there found]
      exact apart
    simp only [Family.step, found]
    exact Timeline.err?_cancel unrelated

theorem Sound.ends (h : f.Sound) (there : f.members[i]? = some m) : f.Ends i m.context where
  canceled := Timeline.err?_eq_canceled_iff.trans (h.isCancelled_iff there)
  overdue := by
    rw [Timeline.err?_eq_deadlineExceeded_iff, h.isCancelled_eq_false_iff there,
      h.isOverdue_iff there]
  live := by
    rw [Timeline.err?_eq_none_iff, h.isCancelled_eq_false_iff there,
      h.isOverdue_eq_false_iff there]
  deadline := (h.least_given there).eq_some_iff
  unbounded := by
    rw [(h.least_given there).eq_none_iff, Set.eq_empty_iff_forall_notMem]
    rfl
  lasts deeds := by
    have later := f.later_run deeds
    exact ⟨contextAt_eq_some_iff.2 ⟨m, later.members i m there, rfl⟩,
      fun e ended => Timeline.err?_of_more later.now later.cancellations ended⟩
  heirs j c' found bound ended := by
    obtain ⟨l, here, rfl⟩ := contextAt_eq_some_iff.1 found
    exact h.heir_ended there here bound ended
  spared k apart := by
    have later := f.later_step (.cancel k)
    exact ⟨contextAt_eq_some_iff.2 ⟨m, later.members i m there, rfl⟩, h.spared there apart⟩

end Ends

/-- Whatever is done to a family, in whatever order, its contexts have ended by cancellations that
reach them and by deadlines that were given to them, and by nothing else. -/
theorem run_ends (deeds : List Deed) {i : Nat} {c : Context}
    (there : (start.run deeds).contextAt i = some c) : (start.run deeds).Ends i c := by
  obtain ⟨m, found, rfl⟩ := contextAt_eq_some_iff.1 there
  exact (sound_start.run deeds).ends found

/-- A token that is taken over and cancelled, deadlines above and below it, and a context that is
made when all is over. -/
def entangled : List Deed :=
  [.derive 0 .child, .derive 1 (.timeout 5), .derive 2 .token, .derive 3 (.deadline 9),
    .derive 2 .clone, .advance 7, .cancel 3, .derive 5 .child]

theorem run_ends_entangled :
    ((start.run entangled).contextAt 6 = some ⟨⟨[4, 2, 1, 0]⟩, some 5⟩ ∧
      (start.run entangled).time.err? ⟨⟨[4, 2, 1, 0]⟩, some 5⟩ = some .canceled) ∧
    (start.run entangled).Ends 6 ⟨⟨[4, 2, 1, 0]⟩, some 5⟩ :=
  ⟨⟨rfl, rfl⟩, run_ends entangled rfl⟩

end Family

end ExplorerClient
