import ExplorerClient.Proofs.Chosen
import ExplorerClient.Proofs.Recorded

/-!
# The executor of a client and the options it stores

The executor of a client and the options that executors are made from are stored apart. A client is
made of settings and then goes through events, calls and changes of settings through any of its
handles. Neither the executors nor what makes them need do the same in two events, so each event
comes with a wiring of its own.

Whatever happens, the executor stays the one that belongs to the stored options: the one that was
supplied last, or else one made of just these options.

Results:
* `Event.after_choices`: what an event changes of the stored options.
* `Turn.run_choices`: what a run leaves of them, and that the executor belongs to them.
* `Plan.course_enters`: each request enters a supplied executor once.
* `Client.slot_matched`: the executor after any run.
-/

namespace ExplorerClient

variable {ε σ α : Type}

/-! ## Runs -/

/-- An event, and how executors act and are made in its course. -/
structure Turn (ε σ : Type) where
  wiring : Wiring ε σ
  event : Event ε σ

/-- The executor that a setting supplies. -/
def Setting.supplies : Setting ε → Option ε
  | .executor value => some value
  | _ => none

namespace Event

/-- The settings that a client takes in an event; one that is refused is not taken. -/
def taken (w : Wiring ε σ) (c : Client ε) : Event ε σ → List (Setting ε)
  | .set setting =>
    match c.set w.connect setting with
    | .ok _ => [setting]
    | .error _ => []
  | .setChainAndNetwork chain network =>
    match c.setChainAndNetwork chain network with
    | .ok _ => [.chain chain, .network network]
    | .error _ => []
  | _ => []

/-- The executor that an event supplies. -/
def supplies : Event ε σ → Option ε
  | .set setting => setting.supplies
  | _ => none

end Event

/-- A row of events: the settings taken in them, and what is there afterwards, unless one of them
never comes to an end. -/
def Turn.run (live : Live ε σ) : List (Turn ε σ) → Option (List (Setting ε) × Live ε σ)
  | [] => some ([], live)
  | t :: rest =>
    match t.event.after t.wiring live with
    | none => none
    | some next => (run next rest).map fun (more, after) =>
        (t.event.taken t.wiring live.client ++ more, after)

/-- The executor supplied last, by a setting that the client was made of or by an event. -/
def lastSupplied (settings : List (Setting ε)) (turns : List (Turn ε σ)) : Option ε :=
  (settings.filterMap Setting.supplies ++ turns.filterMap fun t => t.event.supplies).getLast?

/-! ## Stored options -/

theorem Choices.take_executor (choices : Choices ε) (s : Setting ε) :
    (choices.take s).executor = s.supplies.or choices.executor := by
  cases s <;> rfl

theorem Choices.foldl_executor (choices : Choices ε) (settings : List (Setting ε)) :
    (settings.foldl take choices).executor =
      (settings.filterMap Setting.supplies).getLast?.or choices.executor := by
  induction settings generalizing choices with
  | nil => rfl
  | cons s rest ih =>
    rw [List.foldl_cons, ih, take_executor, List.filterMap_cons]
    cases s.supplies with
    | none => rfl
    | some executor =>
      simp only [List.getLast?_cons]
      cases (rest.filterMap Setting.supplies).getLast? <;> rfl

namespace Event

variable {w : Wiring ε σ} {live after : Live ε σ} {e : Event ε σ}

/-- Only settings that are taken change the stored options, and the executor stays the one that
belongs to them. -/
theorem after_choices (settled : live.client.Settled) (h : e.after w live = some after) :
    after.client.choices = (e.taken w live.client).foldl Choices.take live.client.choices ∧
      after.client.Settled := by
  cases e with
  | call ctx op =>
    obtain ⟨⟨answer, live'⟩, called, rfl⟩ := Option.map_eq_some_iff.mp h
    rw [← op.course_ended] at called
    obtain ⟨result, -, same⟩ := Option.map_eq_some_iff.mp called
    cases same
    rw [show (op.course w ctx live).live.client = _ from op.plan.course_client w ctx live]
    exact ⟨rfl, settled⟩
  | set setting =>
    rw [Event.after] at h
    rw [taken]
    cases changed : live.client.set w.connect setting with
    | error e =>
      rw [changed] at h
      cases h
      exact ⟨rfl, settled⟩
    | ok c =>
      rw [changed] at h
      cases h
      rw [Client.set_eq settled] at changed
      cases allowed : live.client.check w.connect setting with
      | error e =>
        rw [allowed] at changed
        cases changed
      | ok _ =>
        rw [allowed] at changed
        cases changed
        exact ⟨Choices.client_choices _ _, Choices.client_settled _ _⟩
  | setChainAndNetwork chain network =>
    rw [Event.after] at h
    rw [taken]
    cases changed : live.client.setChainAndNetwork chain network with
    | error e =>
      rw [changed] at h
      cases h
      exact ⟨rfl, settled⟩
    | ok c =>
      rw [changed] at h
      cases h
      rw [Client.setChainAndNetwork_eq settled] at changed
      cases allowed : requireAvailable chain network with
      | error e =>
        rw [allowed] at changed
        cases changed
      | ok _ =>
        rw [allowed] at changed
        cases changed
        exact ⟨Choices.client_choices _ _, Choices.client_settled _ _⟩
  | outside change =>
    cases h
    exact ⟨rfl, settled⟩

/-- A supplied executor is never refused. -/
theorem taken_supplies (w : Wiring ε σ) (c : Client ε) (e : Event ε σ) :
    (e.taken w c).filterMap Setting.supplies = e.supplies.toList := by
  cases e with
  | call ctx op | outside change => rfl
  | set setting =>
    rw [taken, supplies]
    cases setting with
    | executor executor => rfl
    | _ => split <;> rfl
  | setChainAndNetwork chain network =>
    rw [taken]
    split <;> rfl

end Event

namespace Turn

variable {live after : Live ε σ}

theorem run_cons {t : Turn ε σ} {rest : List (Turn ε σ)} {taken : List (Setting ε)}
    (h : run live (t :: rest) = some (taken, after)) :
    ∃ next more, t.event.after t.wiring live = some next ∧ run next rest = some (more, after) ∧
      taken = t.event.taken t.wiring live.client ++ more := by
  rw [run] at h
  split at h
  · cases h
  · rename_i next happened
    obtain ⟨⟨more, end_⟩, ran, same⟩ := Option.map_eq_some_iff.mp h
    cases same
    exact ⟨next, more, happened, ran, rfl⟩

/-- A run changes the stored options by the settings that are taken, and leaves the executor that
belongs to them. -/
theorem run_choices {turns : List (Turn ε σ)} {taken : List (Setting ε)}
    (settled : live.client.Settled) (h : run live turns = some (taken, after)) :
    after.client.choices = taken.foldl Choices.take live.client.choices ∧
      after.client.Settled := by
  induction turns generalizing live taken with
  | nil =>
    cases h
    exact ⟨rfl, settled⟩
  | cons t rest ih =>
    obtain ⟨next, more, happened, ran, rfl⟩ := run_cons h
    obtain ⟨stored, settled'⟩ := Event.after_choices settled happened
    obtain ⟨stored', settled''⟩ := ih settled' ran
    refine ⟨?_, settled''⟩
    rw [stored', stored, List.foldl_append]

theorem run_supplies {turns : List (Turn ε σ)} {taken : List (Setting ε)}
    (h : run live turns = some (taken, after)) :
    taken.filterMap Setting.supplies = turns.filterMap fun t => t.event.supplies := by
  induction turns generalizing live taken with
  | nil =>
    cases h
    rfl
  | cons t rest ih =>
    obtain ⟨next, more, happened, ran, rfl⟩ := run_cons h
    rw [List.filterMap_append, Event.taken_supplies, ih ran, List.filterMap_cons]
    cases t.event.supplies <;> rfl

end Turn

/-! ## Requests -/

/-- Of what a plan hands over, each request that is answered enters a supplied executor once, and
nothing else does. -/
theorem Plan.course_enters {w : Wiring ε σ} {ctx : Context} {executor : ε} (p : Plan α)
    (live : Live ε (Watched σ)) (supplied : live.client.slot = .supplied executor) :
    (p.course w.watched ctx live).live.world.state.attempts.map (·.request) =
      live.world.state.attempts.map (·.request) ++
        ((p.course w.watched ctx live).asked.filter (·.reply.isSome)).map (·.request) := by
  let bare : Live ε σ := ⟨live.client, live.world.unwatched⟩
  obtain ⟨blocks, watches⟩ := p.course_watched w ctx bare live.world.state.attempts
  have direct : bare.client.slot.retryLayer = none := by
    rw [show bare.client.slot = _ from supplied]
    rfl
  have once := congrArg (List.map Prod.fst) (requests_of_shown direct watches.shown)
  rw [List.map_map, List.map_map] at once
  have asked := watches.asked
  have entered := watches.live
  rw [show bare.watched live.world.state.attempts = live from rfl] at asked entered
  rw [asked, entered]
  exact (List.map_append ..).trans (congrArg _ once)

/-! ## The executor after a run -/

namespace Client

/-- All requests of the client go through an executor of its owner's. -/
structure GoesThrough (c : Client ε) (executor : ε) : Prop where
  slot : c.slot = .supplied executor
  unlayered : c.slot.retryLayer = none
  /-- Requests are handed to the executor itself, whatever policy is stored. -/
  direct : ∀ {σ : Type} (w : Wiring ε σ), w.executor c.slot = w.supplied executor
  /-- Each request that is answered enters the executor once. -/
  once : ∀ {σ : Type} (w : Wiring ε σ) (ctx : Context) (op : Operation) (world : World σ),
    let course := op.course w.watched ctx ⟨c, world.watched []⟩
    course.live.world.state.attempts.map (·.request) =
      (course.asked.filter (·.reply.isSome)).map (·.request)
  /-- The stored options follow all settings, and no executor is made for them. -/
  follows : ∀ (connect : Connect) (s : Setting ε), s.rebuilds = true →
    c.set connect s = .ok ((c.choices.take s).client c.last)

/-- The client has an executor that is made from the options it stores. -/
structure Manages (c : Client ε) : Prop where
  slot : c.slot = .managed ⟨c.options.requestTimeout, ⟨c.backoff, c.options.retryCount⟩, c.dialer,
    c.pool⟩
  layered : 0 < c.options.retryCount → c.slot.retryLayer = some c.options.retryCount
  unlayered : c.options.retryCount = 0 → c.slot.retryLayer = none
  /-- Requests are retried with the stored policy, if they are retried at all. -/
  retries : ∀ {σ : Type} (w : Wiring ε σ), w.executor c.slot =
    if c.options.retryCount = 0 then w.managed c.config
    else (w.managed c.config).retrying ⟨c.backoff, c.options.retryCount⟩ w.random
  /-- If no executor can be made for a setting, it is refused and nothing changes. -/
  keeps : ∀ {σ : Type} (w : Wiring ε σ) (world : World σ) (s : Setting ε) (e : Error),
    s.rebuilds = true → w.connect (c.choices.take s).config = .error e →
    c.set w.connect s = .error e ∧
      (Event.set s : Event ε σ).after w ⟨c, world⟩ = some ⟨c, world⟩

theorem Settled.goesThrough {c : Client ε} (settled : c.Settled) {executor : ε}
    (chosen : c.choices.executor = some executor) : c.GoesThrough executor := by
  have slot : c.slot = .supplied executor := by
    rw [settled, Choices.slot, chosen]
  refine ⟨slot, by rw [slot]; rfl, ?_, ?_, ?_⟩
  · intro σ w
    rw [slot]
    rfl
  · intro σ w ctx op world
    exact op.plan.course_enters ⟨c, world.watched []⟩ slot
  · intro connect s rebuilds
    rw [set_eq settled, check, slot]
    cases s <;> cases rebuilds <;> rfl

theorem Settled.manages {c : Client ε} (settled : c.Settled)
    (chosen : c.choices.executor = none) : c.Manages := by
  have slot : c.slot = .managed c.config := by
    rw [settled, Choices.slot, chosen]
    rfl
  refine ⟨slot, ?_, ?_, ?_, ?_⟩
  · intro positive
    rw [slot]
    exact if_neg (Nat.ne_of_gt positive)
  · intro zero
    rw [slot]
    exact if_pos zero
  · intro σ w
    rw [slot]
    rfl
  · intro σ w world s e rebuilds fails
    have refused : c.set w.connect s = .error e := by
      rw [set_eq settled, check, slot]
      have stays : s.moves = false := by cases s <;> cases rebuilds <;> rfl
      simp only [stays, rebuilds, fails, Slot.isSupplied]
      rfl
    refine ⟨refused, ?_⟩
    rw [Event.after, refused]

end Client

/-- After any run, the stored options are the standard ones changed by all settings that were taken,
in order. The executor of the client is the one that was supplied last, or else one made from the
stored options, and once an executor has been supplied there will always be one. -/
theorem Client.slot_matched (connect : Connect) (settings : List (Setting ε)) (c : Client ε)
    (world : World σ) (turns : List (Turn ε σ)) (taken : List (Setting ε)) (after : Live ε σ)
    (made : Client.new connect settings = .ok c)
    (ran : Turn.run ⟨c, world⟩ turns = some (taken, after)) :
    after.client.choices = Choices.ofSettings (settings ++ taken) ∧
    (∀ executor, lastSupplied settings turns = some executor →
      after.client.GoesThrough executor) ∧
    (lastSupplied settings turns = none → after.client.Manages) ∧
    ∀ (more : List (Turn ε σ)) (taken' : List (Setting ε)) (later : Live ε σ),
      Turn.run after more = some (taken', later) → after.client.slot.isSupplied = true →
      later.client.slot.isSupplied = true := by
  have fresh : c.Settled ∧ c.choices = Choices.ofSettings settings := by
    rw [new_eq] at made
    cases allowed : (Choices.ofSettings settings).check connect with
    | error e =>
      rw [allowed] at made
      cases made
    | ok _ =>
      rw [allowed] at made
      cases made
      exact ⟨Choices.client_settled _ _, Choices.client_choices _ _⟩
  obtain ⟨stored, settled⟩ := Turn.run_choices fresh.1 ran
  have all : after.client.choices = Choices.ofSettings (settings ++ taken) := by
    rw [stored, fresh.2, Choices.ofSettings_append]
  have chosen : after.client.choices.executor = lastSupplied settings turns := by
    rw [all, Choices.ofSettings, Choices.foldl_executor, List.filterMap_append,
      Turn.run_supplies ran]
    exact Option.or_none
  refine ⟨all, fun executor last => settled.goesThrough (chosen.trans last),
    fun last => settled.manages (chosen.trans last), ?_⟩
  intro more taken' later ran' supplied
  obtain ⟨stored', settled'⟩ := Turn.run_choices settled ran'
  have isSupplied : ∀ {d : Client ε}, d.slot.isSupplied = d.choices.executor.isSome := by
    intro d
    rw [choices]
    cases d.slot <;> rfl
  rw [isSupplied] at supplied ⊢
  rw [stored', Choices.foldl_executor, Option.isSome_or, supplied, Bool.or_true]

/-- A wiring in which no executor can be made. -/
def unmakeable : Wiring Unit Nat := { troubled with connect := fun _ => .error (.transport none) }

/-- A change that is refused because no executor can be made, an executor that is supplied, and a
change that then is taken. -/
def changes : List (Turn Unit Nat) :=
  [⟨unmakeable, .set (.retryCount 7)⟩, ⟨unmakeable, .set (.executor ())⟩,
    ⟨unmakeable, .set (.retryCount 5)⟩,
    ⟨troubled, .call ⟨⟨[0]⟩, none⟩ (.query (.network .chainInfo))⟩]

theorem Client.slot_matched_changes :
    ∃ c after, Client.new troubled.connect [.retryCount 3] = .ok c ∧
      Turn.run ⟨c, .start, 0⟩ changes = some ([.executor (), .retryCount 5], after) ∧
      after.client.GoesThrough () ∧ after.client.options.retryCount = 5 := by
  obtain ⟨c, made, after, ran⟩ : ∃ c, Client.new troubled.connect [.retryCount 3] = .ok c ∧
      ∃ after, Turn.run ⟨c, .start, 0⟩ changes = some ([.executor (), .retryCount 5], after) :=
    ⟨_, rfl, _, rfl⟩
  obtain ⟨stored, supplied, -, -⟩ :=
    Client.slot_matched troubled.connect [.retryCount 3] c ⟨.start, 0⟩ changes _ after made ran
  have count := congrArg (fun choices => choices.options.retryCount) stored
  exact ⟨c, after, made, ran, supplied () rfl, count⟩

end ExplorerClient
