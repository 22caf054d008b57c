import ExplorerClient.Proofs.Available

/-!
# Settings that replace earlier ones

Of the settings that a client is made of, each one replaces those before it that are about the same
choice, and has nothing to do with the others. So for each choice only the last setting counts, and
where there is none the standard value stays. A client is only checked for what all of its settings
come to.

Results:
* `Chooses.get_eq`, `Choices.ofSettings_chooses`: what is stored is what the settings choose.
* `Choices.ofSettings_congr`: settings with the same last ones store the same.
* `Client.new_verdict`: what becomes of making a client.
* `Client.new_replaced`: settings with the same last ones make the same client.
-/

namespace ExplorerClient

variable {ε : Type} {settings : List (Setting ε)} {k : Choice}

/-! ## Last settings -/

/-- The last one of the settings that are about a choice. -/
def lastAbout (k : Choice) (settings : List (Setting ε)) : Option (Setting ε) :=
  settings.findRev? fun s => s.choice = k

theorem lastAbout_eq_some {s : Setting ε} (h : lastAbout k settings = some s) :
    s.choice = k ∧ ∃ front back, settings = front ++ s :: back ∧ ∀ t ∈ back, t.choice ≠ k := by
  rw [lastAbout, List.findRev?_eq_find?_reverse, List.find?_eq_some_iff_append] at h
  obtain ⟨about, back, front, split, others⟩ := h
  refine ⟨by simpa using about, front.reverse, back.reverse, ?_, fun t there => ?_⟩
  · rw [← List.reverse_reverse settings, split]
    simp
  · simpa using others t (List.mem_reverse.mp there)

theorem lastAbout_eq_none (h : lastAbout k settings = none) : ∀ s ∈ settings, s.choice ≠ k := by
  rw [lastAbout, List.findRev?_eq_find?_reverse, List.find?_eq_none] at h
  intro s there
  simpa using h s (List.mem_reverse.mpr there)

/-- What settings choose: the value of the last one about it, or else the standard value. -/
inductive Chooses (settings : List (Setting ε)) : (k : Choice) → k.Value ε → Prop where
  | last (s : Setting ε) (h : lastAbout s.choice settings = some s) :
    Chooses settings s.choice s.value
  | standard (k : Choice) (h : lastAbout k settings = none) :
    Chooses settings k (({} : Choices ε).get k)

theorem Chooses.congr {others : List (Setting ε)} {v : k.Value ε}
    (same : lastAbout k settings = lastAbout k others) (h : Chooses settings k v) :
    Chooses others k v := by
  cases h with
  | last s h => exact .last s (same.symm.trans h)
  | standard k h => exact .standard k (same.symm.trans h)

theorem chooses_something (settings : List (Setting ε)) (k : Choice) :
    ∃ v, Chooses settings k v := by
  cases h : lastAbout k settings with
  | none => exact ⟨_, .standard k h⟩
  | some s =>
    obtain ⟨rfl, -⟩ := lastAbout_eq_some h
    exact ⟨_, .last s h⟩

/-- What is stored for a choice is what the settings choose. -/
theorem Chooses.get_eq {v : k.Value ε} (h : Chooses settings k v) :
    (Choices.ofSettings settings).get k = v := by
  cases h with
  | last s h =>
    obtain ⟨-, front, back, rfl, others⟩ := lastAbout_eq_some h
    rw [Choices.ofSettings_append, List.foldl_cons, Choices.get_foldl_of_ne others,
      Choices.take_get, Function.update_self]
  | standard k h => exact Choices.get_foldl_of_ne (lastAbout_eq_none h) {}

/-! ## Stored choices -/

namespace Choices

theorem ofSettings_chooses (settings : List (Setting ε)) (k : Choice) :
    Chooses settings k ((ofSettings settings).get k) := by
  obtain ⟨v, chosen⟩ := chooses_something settings k
  rw [chosen.get_eq]
  exact chosen

/-- The choices of which these are stored. -/
def ofValues (values : (k : Choice) → k.Value ε) : Choices ε where
  options := {
    chain := values .chain
    network := values .network
    apiKey := values .apiKey
    userAgent := values .userAgent
    rateLimit := values .rateLimit
    requestTimeout := values .requestTimeout
    retryCount := values .retryCount }
  backoff := values .backoff
  dialer := values .dialer
  pool := values .pool
  executor := values .executor

/-- There is nothing to choices but what is stored for each of them. -/
theorem get_injective : Function.Injective (get : Choices ε → (k : Choice) → k.Value ε) :=
  Function.LeftInverse.injective (g := ofValues) fun _ => rfl

theorem ofSettings_congr {xs ys : List (Setting ε)}
    (same : ∀ k, lastAbout k xs = lastAbout k ys) : ofSettings xs = ofSettings ys := by
  refine get_injective (funext fun k => ?_)
  obtain ⟨v, chosen⟩ := chooses_something xs k
  rw [chosen.get_eq, (chosen.congr (same k)).get_eq]

end Choices

/-! ## Making clients -/

/-- The client stores what the settings choose, with the executor that belongs to it. -/
structure Client.Stores (c : Client ε) (settings : List (Setting ε)) : Prop where
  chosen : ∀ k, Chooses settings k (c.choices.get k)
  settled : c.Settled
  fresh : c.last = {}

/-- What becomes of making a client of settings. Of a pair of chain and network that is not
available it counts only whether it is the one that is chosen in the end. -/
inductive Verdict (connect : Connect) (settings : List (Setting ε)) :
    Except Error (Client ε) → Prop where
  | unavailable (chain : Chain) (network : Network) (onChain : Chooses settings .chain chain)
    (onNetwork : Chooses settings .network network)
    (away : network.availableOn chain = false) :
    Verdict connect settings (.error (.unsupportedNetwork chain network))
  /-- No executor is supplied for the client, and none can be made. -/
  | unmade (c : Client ε) (e : Error) (stores : c.Stores settings) (available : c.choices.Available)
    (alone : c.slot = .managed c.config) (fails : connect c.config = .error e) :
    Verdict connect settings (.error e)
  | made (c : Client ε) (stores : c.Stores settings) (available : c.choices.Available)
    (possible : c.slot.isSupplied = true ∨ connect c.config = .ok ()) :
    Verdict connect settings (.ok c)

namespace Client

theorem ofSettings_stores (settings : List (Setting ε)) :
    (Choices.ofSettings settings).client.Stores settings where
  chosen k := by
    rw [Choices.client_choices]
    exact Choices.ofSettings_chooses settings k
  settled := Choices.client_settled _ _
  fresh := rfl

theorem new_verdict (connect : Connect) (settings : List (Setting ε)) :
    Verdict connect settings (new connect settings) := by
  have chosen := Choices.ofSettings_chooses settings
  have stores := ofSettings_stores settings
  rw [new_eq]
  generalize Choices.ofSettings settings = choices at chosen stores
  by_cases available : choices.Available
  · rw [Choices.check_of_available available]
    have available' : choices.client.choices.Available := by
      rw [Choices.client_choices]
      exact available
    cases supplied : choices.executor with
    | some executor =>
      refine .made _ stores available' (Or.inl ?_)
      show choices.slot.isSupplied = true
      rw [Choices.slot, supplied]
      rfl
    | none =>
      have alone : choices.client.slot = .managed choices.client.config := by
        show choices.slot = .managed choices.config
        rw [Choices.slot, supplied]
      simp only [Option.isSome_none, Bool.false_eq_true, if_false]
      cases connects : connect choices.config with
      | error e => exact .unmade _ e stores available' alone connects
      | ok _ => exact .made _ stores available' (Or.inr connects)
  · have refused : choices.check connect = .error
        (.unsupportedNetwork choices.options.chain choices.options.network) := by
      have away : requireAvailable choices.options.chain choices.options.network = .error
          (.unsupportedNetwork choices.options.chain choices.options.network) := if_neg available
      rw [Choices.check, away]
      rfl
    rw [refused]
    exact .unavailable _ _ (chosen .chain) (chosen .network) (Bool.eq_false_iff.mpr available)

/-- Two rows of settings of which, for each choice, either none is about it or the last one is the
same, come to the same: the same client, with the same options, the same waits and connections and
the same executor, or the same refusal. A client is refused for its chain and network if the network
that is chosen in the end is not available on the chain that is chosen in the end, whatever was
chosen in between; and an empty key removes all keys in front of it. -/
theorem new_replaced (connect : Connect) (xs ys : List (Setting ε))
    (same : ∀ k, lastAbout k xs = lastAbout k ys) :
    new connect xs = new connect ys ∧ Verdict connect xs (new connect xs) ∧
    ((∀ config, connect config = .ok ()) →
      (∃ c, new connect xs = .ok c ∧ new connect ys = .ok c ∧ c.Stores xs ∧ c.Stores ys) ∨
      (Chooses xs .chain .btc ∧ Chooses xs .network .stn ∧
        new connect xs = .error (.unsupportedNetwork .btc .stn) ∧
        new connect ys = .error (.unsupportedNetwork .btc .stn))) ∧
    (lastAbout .apiKey xs = some (.apiKey "") → ∀ c, new connect xs = .ok c →
      c.options.apiKey = none) := by
  have equal : new connect xs = new connect ys := by
    rw [new, new, Choices.ofSettings_congr same]
  have verdict := new_verdict connect xs
  refine ⟨equal, verdict, fun connects => ?_, fun last c made => ?_⟩
  · rw [← equal]
    generalize new connect xs = outcome at verdict
    cases verdict with
    | unavailable chain network onChain onNetwork away =>
      obtain ⟨rfl, rfl⟩ : network = .stn ∧ chain = .btc := by
        rw [← not_not (a := _ ∧ _), ← Network.availableOn_iff, away]
        decide
      exact Or.inr ⟨onChain, onNetwork, rfl, rfl⟩
    | unmade c e _ _ _ fails =>
      rw [connects] at fails
      cases fails
    | made c stores _ _ =>
      have stores' : c.Stores ys :=
        ⟨fun k => (stores.chosen k).congr (same k), stores.settled, stores.fresh⟩
      exact Or.inl ⟨c, rfl, rfl, stores, stores'⟩
  · rw [made] at verdict
    cases verdict with
    | made _ stores _ _ =>
      have removed : Chooses xs .apiKey none := .last (.apiKey "") last
      exact (stores.chosen .apiKey).get_eq.symm.trans removed.get_eq

/-- Settings that take back a pair that is not available, and a key. -/
def hesitant : List (Setting Unit) :=
  [.network .stn, .chain .btc, .retryCount 4, .apiKey "secret", .network .test, .retryCount 0,
    .apiKey ""]

/-- The same settings without those that are taken back, in another order. -/
def resolute : List (Setting Unit) := [.apiKey "", .retryCount 0, .chain .btc, .network .test]

theorem new_replaced_hesitant :
    ∃ c, new (fun _ => .ok ()) hesitant = .ok c ∧ new (fun _ => .ok ()) resolute = .ok c ∧
      c.options.network = .test ∧ c.options.apiKey = none := by
  obtain ⟨equal, -, -, removed⟩ := new_replaced (fun _ => .ok ()) hesitant resolute
    (by intro k; cases k <;> rfl)
  obtain ⟨c, made, network⟩ : ∃ c, new (fun _ => .ok ()) hesitant = .ok c ∧
      c.options.network = .test := ⟨_, rfl, rfl⟩
  exact ⟨c, made, equal ▸ made, network, removed rfl c made⟩

end Client

end ExplorerClient
