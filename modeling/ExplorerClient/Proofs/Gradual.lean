import ExplorerClient.Proofs.Chosen
import Mathlib.Data.List.Infix

/-!
# Settings that are taken one at a time

A client can be made of settings at once, or it can be made of none and take them afterwards, one
after the other. Made at once, only what all settings come to is checked and one executor is made;
taken one at a time, each setting is checked against those before it and may make an executor anew.

Results:
* `Client.check_eq`: what may keep a client from taking a setting is what may keep a client from
  being made of the choices that it would store.
* `Client.set_new`: taking one more setting is being made of one more.
* `Client.setAll_eq_ok_iff`: a row of settings is taken exactly if a client can be made of each of
  its beginnings.
* `Client.new_gradual`: if every beginning is possible, both ways lead to the same client.
-/

namespace ExplorerClient

variable {ε : Type}

/-! ## Checks -/

namespace Choices

variable {connect : Connect} {choices : Choices ε}

/-- Where the network is available, only the executor has to be possible. -/
theorem check_of_available
    (available : choices.options.network.availableOn choices.options.chain = true) :
    choices.check connect =
      if choices.executor.isSome then .ok () else connect choices.config := by
  unfold check
  rw [requireAvailable_eq_ok_iff.mpr available]
  rfl

/-- Where the executor is possible, only the network has to be available. -/
theorem check_of_made (made : choices.executor.isSome = true ∨ connect choices.config = .ok ()) :
    choices.check connect =
      requireAvailable choices.options.chain choices.options.network := by
  have rest : (if choices.executor.isSome then .ok () else connect choices.config) =
      Except.ok () := by
    rcases made with supplied | connects
    · rw [if_pos supplied]
    · rw [connects, ite_self]
  unfold check
  rw [rest]
  cases requireAvailable choices.options.chain choices.options.network <;> rfl

theorem check_eq_ok_iff : choices.check connect = .ok () ↔
    choices.options.network.availableOn choices.options.chain = true ∧
      (choices.executor.isSome = true ∨ connect choices.config = .ok ()) := by
  constructor
  · intro passed
    have available : choices.options.network.availableOn choices.options.chain = true := by
      obtain ⟨_, found, -⟩ := ok_of_bind passed
      exact requireAvailable_eq_ok_iff.mp found
    rw [check_of_available available] at passed
    refine ⟨available, ?_⟩
    by_cases supplied : choices.executor.isSome = true
    · exact Or.inl supplied
    · rw [if_neg supplied] at passed
      exact Or.inr passed
  · rintro ⟨available, made⟩
    rw [check_of_made made]
    exact requireAvailable_eq_ok_iff.mpr available

theorem ofSettings_concat (settings : List (Setting ε)) (s : Setting ε) :
    ofSettings (settings ++ [s]) = (ofSettings settings).take s :=
  ofSettings_append settings [s]

end Choices

namespace Client

variable {connect : Connect} {c d : Client ε} {settings : List (Setting ε)}

theorem new_eq_ok_iff : new connect settings = .ok c ↔
    (Choices.ofSettings settings).check connect = .ok () ∧
      c = (Choices.ofSettings settings).client := by
  rw [new_eq]
  cases (Choices.ofSettings settings).check connect with
  | error e => simp [Except.map]
  | ok _ => simp [Except.map, eq_comm]

/-! ## One setting -/

/-- What a setting does not change has been checked before, so nothing is left out if only the
change is checked. -/
theorem check_eq (passed : c.choices.check connect = .ok ()) (s : Setting ε) :
    c.check connect s = (c.choices.take s).check connect := by
  obtain ⟨available, made⟩ := Choices.check_eq_ok_iff.mp passed
  cases s with
  | chain value | network value =>
    rw [Choices.check_of_made (by exact made)]
    rfl
  | apiKey value | userAgent value | rateLimit value => exact passed.symm
  | executor value =>
    rw [Choices.check_of_made (Or.inl rfl)]
    exact (requireAvailable_eq_ok_iff.mpr available).symm
  | requestTimeout value | retryCount value | backoff value | dialer value | pool value =>
    rw [Choices.check_of_available (by exact available), check]
    show (if !c.slot.isSupplied then _ else _) =
      if c.slot.executor?.isSome then _ else _
    cases c.slot <;> rfl

/-- A client that has been made of some settings takes one more as if it were made of that one,
too. -/
theorem set_new (made : new connect settings = .ok c) (s : Setting ε) :
    c.set connect s = new connect (settings ++ [s]) := by
  obtain ⟨passed, rfl⟩ := new_eq_ok_iff.mp made
  have settled := (Choices.ofSettings settings).client_settled {}
  have stored := (Choices.ofSettings settings).client_choices {}
  rw [set_eq settled, check_eq (by rw [stored]; exact passed), new_eq, stored,
    Choices.ofSettings_concat]
  rfl

/-! ## Rows of settings -/

/-- The client after settings that it takes one at a time, unless one of them is refused. -/
def setAll (connect : Connect) (c : Client ε) (settings : List (Setting ε)) :
    Except Error (Client ε) :=
  settings.foldlM (set connect) c

theorem setAll_concat (connect : Connect) (c : Client ε) (settings : List (Setting ε))
    (s : Setting ε) :
    c.setAll connect (settings ++ [s]) =
      c.setAll connect settings >>= fun d => d.set connect s := by
  rw [setAll, List.foldlM_append]
  simp only [List.foldlM_cons, List.foldlM_nil, bind_pure]
  rfl

/-- A client made of some settings takes others one at a time exactly if a client can be made of
the first settings and each beginning of the others, and then it is the one made of all. -/
theorem setAll_eq_ok_iff (made : new connect settings = .ok c) (more : List (Setting ε)) :
    c.setAll connect more = .ok d ↔
      (∀ front, front <+: more → ∃ early, new connect (settings ++ front) = .ok early) ∧
        new connect (settings ++ more) = .ok d := by
  induction more using List.reverseRecOn generalizing d with
  | nil =>
    have none_taken : c.setAll connect [] = .ok c := rfl
    rw [none_taken, List.append_nil, made]
    refine ⟨fun same => ⟨fun front among => ⟨c, ?_⟩, same⟩, And.right⟩
    rw [List.prefix_nil.mp among, List.append_nil, made]
  | append_singleton more s ih =>
    rw [setAll_concat, ← List.append_assoc]
    constructor
    · intro taken
      obtain ⟨early, before, last⟩ := ok_of_bind taken
      obtain ⟨each, whole⟩ := ih.mp before
      rw [set_new whole] at last
      refine ⟨fun front among => ?_, last⟩
      rcases List.prefix_concat_iff.mp among with rfl | among
      · rw [← List.append_assoc]
        exact ⟨d, last⟩
      · exact each front among
    · rintro ⟨each, last⟩
      obtain ⟨early, whole⟩ := each more (List.prefix_append more [s])
      have before : c.setAll connect more = .ok early :=
        ih.mpr ⟨fun front among => each front (among.trans (List.prefix_append more [s])), whole⟩
      rw [before]
      exact (set_new whole s).trans last

/-- If after each setting the network is available on the chain and an executor can be made, then a
client that is made of no settings takes them all, one at a time, and comes to be the client that is
made of them at once: with the same options, the same executor and the same diagnostic text. On the
way, too, it is the client made of the settings so far. -/
theorem new_gradual (connect : Connect) (settings : List (Setting ε))
    (available : ∀ front, front <+: settings →
      (Choices.ofSettings front).options.network.availableOn
        (Choices.ofSettings front).options.chain = true)
    (connects : ∀ front, front <+: settings →
      connect (Choices.ofSettings front).config = .ok ()) :
    ∃ plain c, new connect [] = .ok plain ∧ new connect settings = .ok c ∧
      plain.setAll connect settings = .ok c ∧
      ∀ front s back, settings = front ++ s :: back →
        ∃ before after, plain.setAll connect front = .ok before ∧
          before.set connect s = .ok after ∧ new connect (front ++ [s]) = .ok after := by
  have possible : ∀ front, front <+: settings →
      new connect front = .ok (Choices.ofSettings front).client := by
    intro front among
    have passed := Choices.check_eq_ok_iff.mpr
      ⟨available front among, Or.inr (connects front among)⟩
    exact new_eq_ok_iff.mpr ⟨passed, rfl⟩
  have plain := possible [] List.nil_prefix
  have taken : ∀ front, front <+: settings →
      (Choices.client {}).setAll connect front = .ok (Choices.ofSettings front).client := by
    intro front among
    have each : ∀ early, early <+: front → ∃ c, new connect ([] ++ early) = .ok c :=
      fun early begins => ⟨_, possible early (begins.trans among)⟩
    exact (setAll_eq_ok_iff plain front).mpr ⟨each, possible front among⟩
  have whole := List.prefix_refl settings
  refine ⟨_, _, plain, possible settings whole, taken settings whole, ?_⟩
  rintro front s back rfl
  have before := possible front (List.prefix_append front _)
  have after := possible (front ++ [s]) (by simp)
  exact ⟨_, _, taken front (List.prefix_append front _), (set_new before s).trans after, after⟩

/-- Settings of several kinds, an executor between those that executors are made from, and a key
that is taken away again. -/
def various : List (Setting Unit) :=
  [.retryCount 0, .network .test, .executor (), .pool { maxIdleConnections := 1 }, .chain .btc,
    .apiKey "secret", .retryCount 4, .apiKey ""]

theorem new_gradual_various :
    ∃ plain c, new (fun _ => .ok ()) ([] : List (Setting Unit)) = .ok plain ∧
      new (fun _ => .ok ()) various = .ok c ∧ plain.setAll (fun _ => .ok ()) various = .ok c ∧
      c.slot = .supplied () ∧ c.options.apiKey = none ∧ c.options.retryCount = 4 := by
  have available : ∀ front ∈ various.inits,
      (Choices.ofSettings front).options.network.availableOn
        (Choices.ofSettings front).options.chain = true := by
    decide
  obtain ⟨plain, c, fresh, made, taken, -⟩ := new_gradual (fun _ => .ok ()) various
    (fun front among => available front ((List.mem_inits front various).mpr among))
    (fun _ _ => rfl)
  obtain ⟨-, stored⟩ := new_eq_ok_iff.mp made
  refine ⟨plain, c, fresh, made, taken, ?_⟩
  rw [stored]
  decide

end Client

end ExplorerClient
