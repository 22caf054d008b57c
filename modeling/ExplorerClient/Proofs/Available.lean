import ExplorerClient.Proofs.Concealed
import ExplorerClient.Proofs.Gradual
import ExplorerClient.Proofs.Sent
import Mathlib.Logic.Function.Basic

/-!
# Networks that stay available

A client is only made if its network is available on its chain. Chain and network can be changed
apart from each other, so each of the two is checked against the other one as it is stored; no other
change has a part in it. A change that is refused leaves everything as it was, and one that is taken
changes what it names and nothing else.

Results:
* `Choices.take_get`: a setting changes one of the things that can be chosen.
* `Change.fate`: all that can become of a change.
* `Event.after_available`, `Turn.run_available`: the network stays available.
* `Client.buildUrl_eq_ok_iff`: what the addresses of a client begin with.
* `Client.available_kept`: all of this after any run of a client.
-/

namespace ExplorerClient

variable {ε σ : Type}

/-! ## What can be chosen -/

/-- One of the things that the owner of a client chooses. -/
inductive Choice where
  | chain
  | network
  | apiKey
  | userAgent
  | rateLimit
  | requestTimeout
  | retryCount
  | backoff
  | dialer
  | pool
  | executor
  deriving DecidableEq

/-- What may be stored for a choice. -/
def Choice.Value (ε : Type) : Choice → Type
  | .chain => Chain
  | .network => Network
  | .apiKey => Option String
  | .userAgent => String
  | .rateLimit | .retryCount => Nat
  | .requestTimeout => Duration
  | .backoff => Backoff
  | .dialer => Dialer
  | .pool => Pool
  | .executor => Option ε

/-- What is stored for a choice. -/
def Choices.get (choices : Choices ε) : (k : Choice) → k.Value ε
  | .chain => choices.options.chain
  | .network => choices.options.network
  | .apiKey => choices.options.apiKey
  | .userAgent => choices.options.userAgent
  | .rateLimit => choices.options.rateLimit
  | .requestTimeout => choices.options.requestTimeout
  | .retryCount => choices.options.retryCount
  | .backoff => choices.backoff
  | .dialer => choices.dialer
  | .pool => choices.pool
  | .executor => choices.executor

namespace Setting

/-- What a setting is about. -/
def choice : Setting ε → Choice
  | .chain _ => .chain
  | .network _ => .network
  | .apiKey _ => .apiKey
  | .userAgent _ => .userAgent
  | .rateLimit _ => .rateLimit
  | .requestTimeout _ => .requestTimeout
  | .retryCount _ => .retryCount
  | .backoff _ => .backoff
  | .dialer _ => .dialer
  | .pool _ => .pool
  | .executor _ => .executor

/-- What is stored for a setting. -/
def value : (s : Setting ε) → s.choice.Value ε
  | .chain value => value
  | .network value => value
  | .apiKey value => keyOfText value
  | .userAgent value => value
  | .rateLimit value => value
  | .requestTimeout value => value
  | .retryCount value => value
  | .backoff value => value
  | .dialer value => value
  | .pool value => value
  | .executor value => some value

end Setting

namespace Choices

/-- A setting changes what it is about, and nothing else. -/
theorem take_get (choices : Choices ε) (s : Setting ε) :
    (choices.take s).get = Function.update choices.get s.choice s.value := by
  funext k
  cases s <;> cases k <;> rfl

theorem get_foldl_of_ne {settings : List (Setting ε)} {k : Choice}
    (other : ∀ s ∈ settings, s.choice ≠ k) (choices : Choices ε) :
    (settings.foldl take choices).get k = choices.get k := by
  induction settings generalizing choices with
  | nil => rfl
  | cons s rest ih =>
    have apart : k ≠ s.choice := (other s List.mem_cons_self).symm
    rw [List.foldl_cons, ih fun t there => other t (List.mem_cons_of_mem s there), take_get,
      Function.update_of_ne apart]

theorem get_foldl_of_mem {settings : List (Setting ε)}
    (apart : settings.Pairwise fun s t => s.choice ≠ t.choice) (choices : Choices ε) :
    ∀ s ∈ settings, (settings.foldl take choices).get s.choice = s.value := by
  induction settings generalizing choices with
  | nil => simp
  | cons s rest ih =>
    obtain ⟨first, later⟩ := List.pairwise_cons.mp apart
    intro t there
    rw [List.foldl_cons]
    rcases List.mem_cons.mp there with rfl | there
    · rw [get_foldl_of_ne fun u among => (first u among).symm, take_get, Function.update_self]
    · exact ih later (choices.take s) t there

theorem foldl_executor_of_none {settings : List (Setting ε)}
    (h : ∀ s ∈ settings, s.supplies = none) (choices : Choices ε) :
    (settings.foldl take choices).executor = choices.executor := by
  have nothing : settings.filterMap Setting.supplies = [] := List.filterMap_eq_nil_iff.mpr h
  rw [foldl_executor, nothing]
  rfl

theorem foldl_config {settings : List (Setting ε)} (h : ∀ s ∈ settings, s.rebuilds = false)
    (choices : Choices ε) : (settings.foldl take choices).config = choices.config := by
  induction settings generalizing choices with
  | nil => rfl
  | cons s rest ih =>
    have first : (choices.take s).config = choices.config := by
      have keeps := h s List.mem_cons_self
      cases s <;> first | rfl | cases keeps
    rw [List.foldl_cons, ih fun t there => h t (List.mem_cons_of_mem s there), first]

/-- The network is available on the chain. -/
def Available (choices : Choices ε) : Prop :=
  choices.options.network.availableOn choices.options.chain = true

instance (choices : Choices ε) : Decidable choices.Available :=
  inferInstanceAs (Decidable (_ = true))

/-- What does not change chain or network leaves the network as available as it was. -/
theorem available_of_stays {s : Setting ε} (stays : s.moves = false) (choices : Choices ε) :
    (choices.take s).Available ↔ choices.Available := by
  cases s with
  | chain value | network value => cases stays
  | _ => exact Iff.rfl

end Choices

/-! ## Changes -/

/-- A change of what a client stores: of one setting, or of chain and network together. -/
inductive Change (ε : Type) where
  | one (setting : Setting ε)
  | both (chain : Chain) (network : Network)

/-- What a client is, compared with what it was before a change was taken. -/
structure Changed (before after : Client ε) (settings : List (Setting ε)) : Prop where
  named : ∀ s ∈ settings, after.choices.get s.choice = s.value
  others : ∀ k, (∀ s ∈ settings, s.choice ≠ k) → after.choices.get k = before.choices.get k
  last : after.last = before.last
  /-- The executor is another one only if it is named, or made from what is named. -/
  slot : (∀ s ∈ settings, s.supplies = none ∧ s.rebuilds = false) → after.slot = before.slot
  /-- A supplied executor stays unless another one is supplied. -/
  supplied : ∀ executor, before.slot = .supplied executor →
    (∀ s ∈ settings, s.supplies = none) → after.slot = .supplied executor
  /-- Where no executor is supplied, there is one made from what is stored. -/
  managed : after.choices.executor = none → after.slot = .managed after.config

namespace Change

/-- The settings that a change consists of. -/
def settings : Change ε → List (Setting ε)
  | .one s => [s]
  | .both chain network => [.chain chain, .network network]

/-- The client after a change, unless it is refused. -/
def make (connect : Connect) (c : Client ε) : Change ε → Except Error (Client ε)
  | .one s => c.set connect s
  | .both chain network => c.setChainAndNetwork chain network

/-- The change as something that happens to a client. -/
def event : Change ε → Event ε σ
  | .one s => .set s
  | .both chain network => .setChainAndNetwork chain network

/-- What the client would store. -/
def next (change : Change ε) (c : Client ε) : Choices ε :=
  change.settings.foldl Choices.take c.choices

/-- Does the client have to make another executor? -/
def rebuilds (change : Change ε) (c : Client ε) : Bool :=
  !c.slot.isSupplied && change.settings.any Setting.rebuilds

/-- What may become of a change. -/
inductive Fate (connect : Connect) (c : Client ε) (change : Change ε) :
    Except Error (Client ε) → Prop
  | unavailable (h : ¬ (change.next c).Available) :
    Fate connect c change (.error (.unsupportedNetwork (change.next c).options.chain
      (change.next c).options.network))
  | unmade (e : Error) (available : (change.next c).Available) (rebuilds : change.rebuilds c = true)
    (fails : connect (change.next c).config = .error e) : Fate connect c change (.error e)
  | taken (available : (change.next c).Available)
    (made : change.rebuilds c = true → connect (change.next c).config = .ok ()) :
    Fate connect c change (.ok ((change.next c).client c.last))

variable {connect : Connect} {c : Client ε}

theorem fate_pair (change : Change ε) {chain : Chain} {network : Network}
    (same : (change.next c).options.chain = chain ∧ (change.next c).options.network = network)
    (stays : change.rebuilds c = false) :
    Fate connect c change ((requireAvailable chain network).map fun _ =>
      (change.next c).client c.last) := by
  obtain ⟨rfl, rfl⟩ := same
  by_cases available : (change.next c).Available
  · rw [requireAvailable_eq_ok_iff.mpr available]
    exact .taken available fun rebuilds => by rw [stays] at rebuilds; cases rebuilds
  · have refused : requireAvailable (change.next c).options.chain
        (change.next c).options.network = .error (.unsupportedNetwork
          (change.next c).options.chain (change.next c).options.network) :=
      if_neg available
    rw [refused]
    exact .unavailable available

/-- Chain and network are checked against each other; nothing else is, but that an executor can be
made where there has to be another one. -/
theorem fate (change : Change ε) (connect : Connect) (settled : c.Settled)
    (available : c.choices.Available) : Fate connect c change (change.make connect c) := by
  cases change with
  | both chain network =>
    rw [make, Client.setChainAndNetwork_eq settled]
    exact fate_pair (.both chain network) ⟨rfl, rfl⟩ (Bool.and_false _)
  | one s =>
    have single : (one s).rebuilds c = (s.rebuilds && !c.slot.isSupplied) := by
      rw [rebuilds, settings, List.any_cons, List.any_nil, Bool.or_false, Bool.and_comm]
    rw [make, Client.set_eq settled]
    unfold Client.check
    by_cases moves : s.moves = true
    · have stays : (one s).rebuilds c = false := by
        rw [single]
        cases s <;> cases moves <;> rfl
      simp only [if_pos moves]
      exact fate_pair (.one s) ⟨rfl, rfl⟩ stays
    · have there : ((one s).next c).Available :=
        (Choices.available_of_stays (Bool.eq_false_iff.mpr moves) c.choices).mpr available
      have stored : c.choices.take s = (one s).next c := rfl
      simp only [if_neg moves, ← single, stored]
      by_cases again : (one s).rebuilds c = true
      · rw [if_pos again]
        cases connects : connect ((one s).next c).config with
        | error e => exact .unmade e there again connects
        | ok _ => exact .taken there fun _ => connects
      · rw [if_neg again]
        exact .taken there fun rebuilds => absurd rebuilds again

namespace Fate

variable {change : Change ε} {outcome : Except Error (Client ε)}

theorem eq_of_unavailable (h : Fate connect c change outcome)
    (away : ¬ (change.next c).Available) :
    outcome = .error (.unsupportedNetwork (change.next c).options.chain
      (change.next c).options.network) := by
  cases h with
  | unavailable _ => rfl
  | unmade e there _ _ => exact absurd there away
  | taken there _ => exact absurd there away

theorem eq_error_iff (h : Fate connect c change outcome) (there : (change.next c).Available)
    {e : Error} : outcome = .error e ↔
      change.rebuilds c = true ∧ connect (change.next c).config = .error e := by
  cases h with
  | unavailable away => exact absurd there away
  | unmade e' _ again fails => simp [again, fails]
  | taken _ made =>
    constructor
    · intro failed
      cases failed
    · rintro ⟨again, fails⟩
      rw [made again] at fails
      cases fails

theorem of_ok {c' : Client ε} (h : Fate connect c change (.ok c')) :
    (change.next c).Available ∧ c' = (change.next c).client c.last := by
  cases h with
  | taken there _ => exact ⟨there, rfl⟩

end Fate

/-- What is there after a change. -/
theorem after_event (change : Change ε) (w : Wiring ε σ) (live : Live ε σ) :
    change.event.after w live =
      match change.make w.connect live.client with
      | .ok client => some { live with client }
      | .error _ => some live := by
  cases change <;> rfl

theorem settings_apart (change : Change ε) :
    change.settings.Pairwise fun s t => s.choice ≠ t.choice := by
  cases change with
  | one s => exact List.pairwise_singleton _ s
  | both chain network => exact List.pairwise_pair.mpr (by simp [Setting.choice])

/-- A change that is taken changes what it names, and nothing else. -/
theorem changed (settled : c.Settled) (change : Change ε) :
    Changed c ((change.next c).client c.last) change.settings := by
  have slot : c.slot = c.choices.slot := settled
  refine ⟨?_, ?_, rfl, ?_, ?_, ?_⟩
  · rw [Choices.client_choices]
    exact Choices.get_foldl_of_mem change.settings_apart c.choices
  · intro k other
    rw [Choices.client_choices]
    exact Choices.get_foldl_of_ne other c.choices
  · intro apart
    have executor : (change.next c).executor = c.choices.executor :=
      Choices.foldl_executor_of_none (fun s there => (apart s there).1) c.choices
    have config : (change.next c).config = c.choices.config :=
      Choices.foldl_config (fun s there => (apart s there).2) c.choices
    show (change.next c).slot = c.slot
    rw [slot, Choices.slot, Choices.slot, executor, config]
  · intro executor supplied none_other
    have kept : (change.next c).executor = some executor := by
      rw [next, Choices.foldl_executor_of_none none_other, Client.choices, supplied]
      rfl
    show (change.next c).slot = .supplied executor
    rw [Choices.slot, kept]
  · intro none_there
    rw [Choices.client_choices] at none_there
    show (change.next c).slot = .managed (change.next c).config
    rw [Choices.slot, none_there]

end Change

/-! ## Runs -/

namespace Event

variable {w : Wiring ε σ} {live after : Live ε σ} {e : Event ε σ}

/-- No event makes the network unavailable. -/
theorem after_available (settled : live.client.Settled) (available : live.client.choices.Available)
    (h : e.after w live = some after) : after.client.choices.Available := by
  have change_keeps : ∀ change : Change ε, change.event.after w live = some after →
      after.client.choices.Available := by
    intro change h
    rw [change.after_event] at h
    have fate := change.fate w.connect settled available
    cases made : change.make w.connect live.client with
    | error e =>
      rw [made] at h
      cases h
      exact available
    | ok c =>
      rw [made] at h fate
      cases h
      obtain ⟨there, rfl⟩ := fate.of_ok
      rw [Choices.client_choices]
      exact there
  cases e with
  | call ctx op | outside change =>
    rw [(after_choices settled h).1]
    exact available
  | set setting => exact change_keeps (.one setting) h
  | setChainAndNetwork chain network => exact change_keeps (.both chain network) h

end Event

theorem Turn.run_available {live after : Live ε σ} {turns : List (Turn ε σ)}
    {taken : List (Setting ε)} (settled : live.client.Settled)
    (available : live.client.choices.Available) (h : run live turns = some (taken, after)) :
    after.client.choices.Available := by
  induction turns generalizing live taken with
  | nil =>
    cases h
    exact available
  | cons t rest ih =>
    obtain ⟨next, more, happened, ran, -⟩ := run_cons h
    have settled' := (Event.after_choices settled happened).2
    exact ih settled' (Event.after_available settled available happened) ran

/-- A client that has just been made has the executor that belongs to its options, and its network
is available. -/
theorem Origin.make_available {connect : Connect} {o : Origin ε} {c : Client ε}
    (made : o.make connect = .ok c) : c.Settled ∧ c.choices.Available := by
  obtain ⟨settings, made⟩ : ∃ settings, Client.new connect settings = .ok c := by
    cases o with
    | settings given => exact ⟨given, made⟩
    | environment given =>
      obtain ⟨settings, -, made⟩ := ok_of_bind made
      exact ⟨settings, made⟩
  obtain ⟨passed, rfl⟩ := Client.new_eq_ok_iff.mp made
  refine ⟨Choices.client_settled _ _, ?_⟩
  rw [Choices.client_choices]
  exact (Choices.check_eq_ok_iff.mp passed).1

/-! ## Addresses -/

namespace Client

variable {c : Client ε} {template : String} {args : List Route.Argument}

theorem buildUrl_eq_ok_iff {url : String} : c.buildUrl template args = .ok url ↔
    ∃ path, Route.expand template args = .ok path ∧
      url = Route.address c.options.chain c.options.network path := by
  unfold buildUrl
  cases Route.expand template args with
  | error e => simp [bind, Except.bind]
  | ok path => simp [bind, Except.bind, pure, Except.pure, eq_comm]

theorem buildUrl_eq_error_iff {e : Error} : c.buildUrl template args = .error e ↔
    Route.expand template args = .error e := by
  unfold buildUrl
  cases Route.expand template args with
  | error e => simp [bind, Except.bind]
  | ok path => simp [bind, Except.bind, pure, Except.pure]

/-- The address of each request is the one that is built of the template of its route. -/
theorem asked_built (w : Wiring ε σ) (ctx : Context) (op : Operation) (world : World σ) :
    ∀ a ∈ (op.course w ctx ⟨c, world⟩).asked,
      c.buildUrl a.query.inquiry.route.template a.query.inquiry.route.arguments = .ok a.url := by
  intro a there
  have handed := op.plan.asked_handed w ctx ⟨c, world⟩ a there
  have proper := Route.isProper_query a.query
  refine buildUrl_eq_ok_iff.mpr ⟨a.query.inquiry.route.text, ?_, ?_⟩
  · exact Route.expand_template fun t => Route.own_pieces proper
  · exact Inquiry.url_ok (Query.handed_ok handed).1

/-- All addresses of the client begin with the root of the service and the chain and the network
that it stores. -/
structure Addressed (c : Client ε) : Prop where
  built : ∀ template args url, c.buildUrl template args = .ok url ↔
    ∃ path, Route.expand template args = .ok path ∧
      url = "https://api.whatsonchain.com/v1/" ++ c.options.chain.name ++ "/" ++
        c.options.network.name ++ path
  unbuilt : ∀ template args e, c.buildUrl template args = .error e ↔
    Route.expand template args = .error e
  asked : ∀ {σ : Type} (w : Wiring ε σ) (ctx : Context) (op : Operation) (world : World σ),
    ∀ a ∈ (op.course w ctx ⟨c, world⟩).asked,
      c.buildUrl a.query.inquiry.route.template a.query.inquiry.route.arguments = .ok a.url

theorem addressed (c : Client ε) : c.Addressed where
  built _ _ _ := buildUrl_eq_ok_iff
  unbuilt _ _ _ := buildUrl_eq_error_iff
  asked := asked_built

end Client

/-! ## The network after any run -/

/-- What becomes of a change of a client. -/
structure Change.Kept (w : Wiring ε σ) (live : Live ε σ) (change : Change ε) : Prop where
  /-- A pair that is not available is refused, and the error names it. -/
  unavailable : ¬ (change.next live.client).Available →
    change.make w.connect live.client = .error (.unsupportedNetwork
      (change.next live.client).options.chain (change.next live.client).options.network)
  /-- A pair that is available is refused only if there has to be another executor and none can be
  made. -/
  unmade : ∀ e, (change.next live.client).Available →
    (change.make w.connect live.client = .error e ↔
      change.rebuilds live.client = true ∧ w.connect (change.next live.client).config = .error e)
  /-- Where executors can be made, the changes that are refused are those to pairs that are not
  available. -/
  exactly : (∀ config, w.connect config = .ok ()) →
    ((∃ e, change.make w.connect live.client = .error e) ↔ ¬ (change.next live.client).Available)
  refused : ∀ e, change.make w.connect live.client = .error e →
    change.event.after w live = some live
  taken : ∀ c, change.make w.connect live.client = .ok c →
    change.event.after w live = some { live with client := c } ∧
      Changed live.client c change.settings

theorem Change.kept {live : Live ε σ} (settled : live.client.Settled)
    (available : live.client.choices.Available) (w : Wiring ε σ) (change : Change ε) :
    change.Kept w live := by
  have fate := change.fate w.connect settled available
  refine ⟨fate.eq_of_unavailable, fun e there => fate.eq_error_iff there, ?_, ?_, ?_⟩
  · intro connects
    constructor
    · rintro ⟨e, failed⟩ there
      obtain ⟨-, fails⟩ := (fate.eq_error_iff there).mp failed
      rw [connects] at fails
      cases fails
    · intro away
      exact ⟨_, fate.eq_of_unavailable away⟩
  · intro e failed
    rw [after_event, failed]
  · intro c made
    rw [made] at fate
    obtain ⟨-, rfl⟩ := fate.of_ok
    refine ⟨?_, change.changed settled⟩
    rw [after_event, made]

/-- After any run of a client that could be made, through whichever of its handles, its network is
available on its chain. A change is refused exactly if it would make that untrue, apart from
executors that cannot be made, and then it leaves everything as it was; one that is taken changes
what it names and nothing else. So each address that the client builds, for its owner or for a call,
begins with a network on a chain that has it. -/
theorem Client.available_kept (connect : Connect) (o : Origin ε) (c : Client ε) (world : World σ)
    (turns : List (Turn ε σ)) (taken : List (Setting ε)) (after : Live ε σ)
    (made : o.make connect = .ok c) (ran : Turn.run ⟨c, world⟩ turns = some (taken, after)) :
    after.client.options.network.availableOn after.client.options.chain = true ∧
    ¬ (after.client.options.network = .stn ∧ after.client.options.chain = .btc) ∧
    (∀ (w : Wiring ε σ) (change : Change ε), change.Kept w after) ∧
    after.client.Addressed := by
  obtain ⟨settled, available⟩ := Origin.make_available made
  have settled' : after.client.Settled := (Turn.run_choices settled ran).2
  have available' : after.client.choices.Available := Turn.run_available settled available ran
  exact ⟨available', Network.availableOn_iff.mp available',
    fun w change => change.kept settled' available' w, after.client.addressed⟩

/-- Changes that are refused, and between them some that are taken. -/
def moves : List (Turn Unit Nat) :=
  [⟨troubled, .set (.network .stn)⟩, ⟨troubled, .setChainAndNetwork .bsv .stn⟩,
    ⟨troubled, .call ⟨⟨[0]⟩, none⟩ (.query (.network .chainInfo))⟩,
    ⟨troubled, .set (.chain .btc)⟩, ⟨unmakeable, .set (.retryCount 5)⟩,
    ⟨unmakeable, .set (.userAgent "agent")⟩]

theorem Client.available_kept_moves :
    ∃ c after, (Origin.settings [.network .test, .chain .btc]).make troubled.connect = .ok c ∧
      Turn.run ⟨c, .start, 0⟩ moves =
        some ([.chain .bsv, .network .stn, .userAgent "agent"], after) ∧
      after.client.set troubled.connect (.chain .btc) = .error (.unsupportedNetwork .btc .stn) ∧
      after.client.buildUrl "/block/\x7b\x7d" [.number 5] =
        .ok "https://api.whatsonchain.com/v1/bsv/stn/block/5" := by
  obtain ⟨c, made, after, ran, chain, network⟩ : ∃ c,
      (Origin.settings [.network .test, .chain .btc]).make troubled.connect = .ok c ∧
        ∃ after, Turn.run ⟨c, .start, 0⟩ moves =
            some ([.chain .bsv, .network .stn, .userAgent "agent"], after) ∧
          after.client.options.chain = .bsv ∧ after.client.options.network = .stn :=
    ⟨_, rfl, _, rfl, rfl, rfl⟩
  obtain ⟨-, -, kept, addressed⟩ :=
    Client.available_kept troubled.connect _ c ⟨.start, 0⟩ moves _ after made ran
  have pair : ((Change.one (.chain .btc)).next after.client).options.network = .stn := network
  have away : ¬ ((Change.one (.chain .btc)).next after.client).Available := by
    show ¬ Network.availableOn ((Change.one (.chain .btc)).next after.client).options.network .btc
      = true
    rw [pair]
    decide
  refine ⟨c, after, made, ran, ?_, ?_⟩
  · have refused := (kept troubled (.one (.chain .btc))).unavailable away
    rw [pair] at refused
    exact refused
  · refine (addressed.built _ _ _).mpr ⟨"/block/5", by rfl, ?_⟩
    rw [chain, network]
    decide

end ExplorerClient
