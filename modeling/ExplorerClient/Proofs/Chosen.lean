import ExplorerClient.Client.Basic
import ExplorerClient.Proofs.Plan

/-!
# Clients and the choices that they store

Apart from the record of its last request a client is nothing but choices, together with the
executor that belongs to them: the one that was chosen, or else one made from the other choices.
Settings are taken by clients as they are taken by choices. What may keep a client from taking one
is that the network is not available on the chain, or that no executor can be made.

Results:
* `Client.new_eq`: how a client is made.
* `Client.set_eq`: what a setting does.
* `Client.setChainAndNetwork_eq`: chain and network are two settings that are checked as one.
-/

namespace ExplorerClient

variable {ε : Type}

/-! ## Choices -/

/-- The executor that the owner supplied, if there is one. -/
def Slot.executor? : Slot ε → Option ε
  | .supplied executor => some executor
  | .managed _ => none

/-- What a managed executor is made from if these choices are made. -/
def Choices.config (choices : Choices ε) : Managed :=
  ⟨choices.options.requestTimeout, ⟨choices.backoff, choices.options.retryCount⟩, choices.dialer,
    choices.pool⟩

/-- The executor that belongs to the choices. -/
def Choices.slot (choices : Choices ε) : Slot ε :=
  match choices.executor with
  | some executor => .supplied executor
  | none => .managed choices.config

/-- The client that stores the choices. -/
def Choices.client (choices : Choices ε) (last : LastRequest := {}) : Client ε :=
  ⟨choices.options, choices.backoff, choices.dialer, choices.pool, choices.slot, last⟩

/-- The choices that a client stores. -/
def Client.choices (c : Client ε) : Choices ε :=
  ⟨c.options, c.backoff, c.dialer, c.pool, c.slot.executor?⟩

/-- The executor of the client is the one that belongs to its choices. -/
def Client.Settled (c : Client ε) : Prop := c.slot = c.choices.slot

@[simp] theorem Choices.slot_executor (choices : Choices ε) :
    choices.slot.executor? = choices.executor := by
  unfold slot
  cases choices.executor <;> rfl

@[simp] theorem Choices.client_choices (choices : Choices ε) (last : LastRequest) :
    (choices.client last).choices = choices := by
  simp [client, Client.choices]

theorem Choices.client_settled (choices : Choices ε) (last : LastRequest) :
    (choices.client last).Settled := by
  rw [Client.Settled, client_choices]
  rfl

theorem Client.Settled.client_eq {c : Client ε} (settled : c.Settled) :
    c.choices.client c.last = c := by
  rw [Choices.client, ← settled]
  rfl

theorem Client.choices_config (c : Client ε) : c.choices.config = c.config := rfl

/-! ## Making clients -/

/-- What may keep a client from being made. -/
def Choices.check (connect : Connect) (choices : Choices ε) : Except Error Unit := do
  requireAvailable choices.options.chain choices.options.network
  if choices.executor.isSome then .ok () else connect choices.config

theorem Client.ofChoices_eq (connect : Connect) (choices : Choices ε) :
    ofChoices connect choices = (choices.check connect).map fun _ => choices.client := by
  obtain ⟨options, backoff, dialer, pool, executor⟩ := choices
  unfold ofChoices Choices.check
  simp only
  cases requireAvailable options.chain options.network with
  | error e => rfl
  | ok _ =>
    cases executor with
    | some executor => rfl
    | none =>
      simp only [manage, bind, Except.bind, Option.isSome_none, Bool.false_eq_true, if_false,
        Choices.config]
      cases connect ⟨options.requestTimeout, ⟨backoff, options.retryCount⟩, dialer, pool⟩ <;> rfl

theorem Client.new_eq (connect : Connect) (settings : List (Setting ε)) :
    new connect settings = ((Choices.ofSettings settings).check connect).map
      fun _ => (Choices.ofSettings settings).client :=
  ofChoices_eq connect _

/-! ## Changing settings -/

/-- Does the setting change the chain or the network? -/
def Setting.moves : Setting ε → Bool
  | .chain _ | .network _ => true
  | _ => false

/-- Does the setting change what a managed executor is made from? -/
def Setting.rebuilds : Setting ε → Bool
  | .requestTimeout _ | .retryCount _ | .backoff _ | .dialer _ | .pool _ => true
  | _ => false

namespace Client

/-- What may keep a client from taking a setting. -/
def check (connect : Connect) (c : Client ε) (s : Setting ε) : Except Error Unit :=
  let next := c.choices.take s
  if s.moves then requireAvailable next.options.chain next.options.network
  else if s.rebuilds && !c.slot.isSupplied then connect next.config
  else .ok ()

/-- A setting that changes what an executor is made from, and nothing else. -/
theorem reconfigure_eq {c : Client ε} (connect : Connect) {update : Managed → Managed}
    {s : Setting ε} (rebuilds : s.rebuilds = true)
    (updated : update c.config = (c.choices.take s).config)
    (kept : (c.choices.take s).executor = c.slot.executor?)
    (others : { c.options with
      requestTimeout := (c.choices.take s).options.requestTimeout
      retryCount := (c.choices.take s).options.retryCount } = (c.choices.take s).options) :
    reconfigure connect c update =
      (c.check connect s).map fun _ => (c.choices.take s).client c.last := by
  have stays : s.moves = false := by cases s <;> cases rebuilds <;> rfl
  unfold reconfigure check
  rw [updated, stays, rebuilds]
  generalize c.choices.take s = next at *
  obtain ⟨options, backoff, dialer, pool, executor⟩ := next
  simp only [Choices.config] at kept others ⊢
  rw [others]
  cases filled : c.slot with
  | supplied executor =>
    rw [filled] at kept
    cases kept
    rfl
  | managed config =>
    rw [filled] at kept
    cases kept
    simp only [manage, bind, Except.bind, Slot.isSupplied]
    cases connect ⟨options.requestTimeout, ⟨backoff, options.retryCount⟩, dialer, pool⟩ <;> rfl

/-- What an executor is not made from is taken as it is. -/
theorem eq_client {c d : Client ε} {next : Choices ε} (settled : c.Settled)
    (stores : d.choices = next) (slot : d.slot = c.slot) (config : next.config = c.config) :
    d = next.client d.last := by
  subst stores
  refine (Settled.client_eq ?_).symm
  have slots : c.slot = c.choices.slot := settled
  rw [Settled, slot, slots]
  unfold Choices.slot
  rw [config, ← choices_config]
  simp only [choices, slot]

theorem setChainAndNetwork_eq {c : Client ε} (settled : c.Settled) (chain : Chain)
    (network : Network) :
    c.setChainAndNetwork chain network = (requireAvailable chain network).map fun _ =>
      ((c.choices.take (.chain chain)).take (.network network)).client c.last := by
  unfold setChainAndNetwork
  cases requireAvailable chain network with
  | error e => rfl
  | ok _ => exact congrArg Except.ok (eq_client settled rfl rfl rfl)

theorem set_eq {c : Client ε} (settled : c.Settled) (connect : Connect) (s : Setting ε) :
    c.set connect s =
      (c.check connect s).map fun _ => (c.choices.take s).client c.last := by
  cases s with
  | chain value | network value => exact setChainAndNetwork_eq settled _ _
  | apiKey value | userAgent value | rateLimit value =>
    exact congrArg Except.ok (eq_client settled rfl rfl rfl)
  | executor value => rfl
  | requestTimeout value | retryCount value | backoff value | dialer value | pool value =>
    rw [set]
    refine reconfigure_eq connect ?_ ?_ ?_ ?_ <;> rfl

end Client

end ExplorerClient
