import ExplorerClient.Proofs.Blind

/-!
# What a key has an influence on

Two runs of a client are compared that differ in nothing but keys that are alike: a client is made
of settings or of the environment, and then goes through calls and changes of its settings. With
executors that are blind to keys, everything that is seen of the two runs is the same, up to the
value of one header: what comes of each event, the requests with their instants, the diagnostic
texts, and the client after each event.

Results:
* `Event.after_alike`, `Event.seen_alike`: one event.
* `Event.account_alike`: a row of events.
* `Origin.key_concealed`: whole runs.
-/

namespace ExplorerClient

variable {ε σ : Type}

/-! ## Events -/

/-- What is seen of an event. -/
structure Seen (ε : Type) where
  /-- The diagnostic text of a setting. -/
  text : Option String
  /-- What comes of it, if it comes to an end. -/
  result : Option (Except Error (Option Shown))
  /-- What is handed to the executor of the client, without the value of a key. -/
  asked : List Asked
  /-- What is given to servers, without the value of a key. -/
  tried : List Tried
  /-- The time and the client afterwards. -/
  after : Option (Timeline × Face ε)

namespace Event

/-- The same event, apart from keys that are alike. What goes on outside of a client leaves worlds
that belong together. -/
inductive Alike (alike : σ → σ → Prop) : Event ε σ → Event ε σ → Prop
  | call (ctx : Context) (operation : Operation) :
    Alike alike (.call ctx operation) (.call ctx operation)
  | set {s s' : Setting ε} (h : s.Alike s') : Alike alike (.set s) (.set s')
  | setChainAndNetwork (chain : Chain) (network : Network) :
    Alike alike (.setChainAndNetwork chain network) (.setChainAndNetwork chain network)
  | outside {change change' : World σ → World σ}
    (keeps : ∀ u v : World σ, u.Alike alike v → (change u).Alike alike (change' v)) :
    Alike alike (.outside change) (.outside change')

/-- The diagnostic text of the setting that an event is about. -/
def text : Event ε σ → Option String
  | .set setting => some setting.summary
  | _ => none

/-- What comes of an event, if it comes to an end. -/
def result (w : Wiring ε σ) (live : Live ε σ) : Event ε σ → Option (Except Error (Option Shown))
  | .call ctx operation => (operation.call w ctx live).map fun (answer, _) => answer.map some
  | .set setting => some ((live.client.set w.connect setting).map fun _ => none)
  | .setChainAndNetwork chain network =>
    some ((live.client.setChainAndNetwork chain network).map fun _ => none)
  | .outside _ => some (.ok none)

/-- What an event gives to servers. -/
def tries (w : Wiring ε σ) (live : Live ε σ) : Event ε σ → List Tried
  | .call ctx operation => operation.plan.tries w ctx live
  | _ => []

/-- What is seen of an event. -/
def seen (w : Wiring ε σ) (live : Live ε σ) (e : Event ε σ) : Seen ε where
  text := e.text
  result := e.result w live
  asked := (e.asked w live).map Asked.concealed
  tried := (e.tries w live).map Tried.concealed
  after := (e.after w live).map fun live => (live.world.time, live.client.face)

/-- What is seen of a row of events, up to the first that never comes to an end. -/
def account (w : Wiring ε σ) (live : Live ε σ) : List (Event ε σ) → List (Seen ε)
  | [] => []
  | e :: rest =>
    e.seen w live ::
      match e.after w live with
      | none => []
      | some next => account w next rest

variable {w : Wiring ε σ} {alike : σ → σ → Prop} {l l' : Live ε σ} {e e' : Event ε σ}

theorem after_alike (blind : w.Blind alike) (same : e.Alike alike e') (lives : l.Alike alike l') :
    Option.Rel (Live.Alike alike) (e.after w l) (e'.after w l') := by
  cases same with
  | call ctx operation =>
    have course := operation.plan.course_alike blind ctx lives
    unfold after
    simp only [← Operation.course_ended, Operation.course, Course.ended, ← course.answer]
    cases (operation.plan.course w ctx l).answer with
    | none => exact .none
    | some answer => exact .some course.live
  | set h =>
    have changed := Client.set_alike w.connect lives.client h
    rw [after, after]
    generalize l.client.set w.connect _ = x at changed
    generalize l'.client.set w.connect _ = y at changed
    cases changed with
    | failed e => exact .some lives
    | ended client => exact .some ⟨client, lives.world⟩
  | setChainAndNetwork chain network =>
    have changed := Client.setChainAndNetwork_alike lives.client chain network
    rw [after, after]
    generalize l.client.setChainAndNetwork chain network = x at changed
    generalize l'.client.setChainAndNetwork chain network = y at changed
    cases changed with
    | failed e => exact .some lives
    | ended client => exact .some ⟨client, lives.world⟩
  | outside keeps => exact .some ⟨lives.client, keeps _ _ lives.world⟩

theorem result_alike (blind : w.Blind alike) (same : e.Alike alike e')
    (lives : l.Alike alike l') : e.result w l = e'.result w l' := by
  cases same with
  | call ctx operation =>
    have course := operation.plan.course_alike blind ctx lives
    unfold result
    simp only [← Operation.course_ended, Operation.course, Course.ended, ← course.answer]
    cases (operation.plan.course w ctx l).answer <;> rfl
  | set h =>
    have changed := Client.set_alike w.connect lives.client h
    exact congrArg some (changed.map_eq fun _ _ _ => rfl)
  | setChainAndNetwork chain network =>
    have changed := Client.setChainAndNetwork_alike lives.client chain network
    exact congrArg some (changed.map_eq fun _ _ _ => rfl)
  | outside keeps => rfl

theorem seen_alike (blind : w.Blind alike) (same : e.Alike alike e') (lives : l.Alike alike l') :
    e.seen w l = e'.seen w l' := by
  have text : e.text = e'.text := by
    cases same with
    | set h => exact congrArg some h.summary
    | _ => rfl
  have asked : (e.asked w l).map Asked.concealed = (e'.asked w l').map Asked.concealed := by
    cases same with
    | call ctx operation => exact (operation.plan.course_alike blind ctx lives).asked
    | _ => rfl
  have tried : (e.tries w l).map Tried.concealed = (e'.tries w l').map Tried.concealed := by
    cases same with
    | call ctx operation => exact operation.plan.tries_alike blind ctx lives
    | _ => rfl
  have after : (e.after w l).map (fun live => (live.world.time, live.client.face)) =
      (e'.after w l').map fun live => (live.world.time, live.client.face) := by
    have left := after_alike blind same lives
    generalize e.after w l = x at left
    generalize e'.after w l' = y at left
    cases left with
    | none => rfl
    | some later => exact congrArg some (Prod.ext later.world.time later.client.face)
  simp only [seen, text, result_alike blind same lives, asked, tried, after]

theorem account_alike (blind : w.Blind alike) {events events' : List (Event ε σ)}
    (same : List.Forall₂ (Alike alike) events events') (lives : l.Alike alike l') :
    account w l events = account w l' events' := by
  induction same generalizing l l' with
  | nil => rfl
  | @cons e e' _ _ first _ ih =>
    simp only [account, seen_alike blind first lives]
    refine congrArg (List.cons _) ?_
    have left := after_alike blind first lives
    generalize e.after w l = x at left
    generalize e'.after w l' = y at left
    cases left with
    | none => rfl
    | some later => exact ih later

end Event

/-! ## Whole runs -/

/-- What a client is made of. -/
inductive Origin (ε : Type) where
  | settings (given : List (Setting ε))
  | environment (given : Environment)

namespace Origin

/-- Makes a client. -/
def make (connect : Connect) : Origin ε → Except Error (Client ε)
  | .settings given => Client.new connect given
  | .environment given => Client.ofEnvironment connect given

/-- The diagnostic texts of the settings that a client is made of. -/
def texts : Origin ε → List String
  | .settings given => given.map Setting.summary
  | .environment _ => []

/-- The same origin, apart from keys that are alike. -/
inductive Alike : Origin ε → Origin ε → Prop
  | settings {ss ss' : List (Setting ε)} (h : List.Forall₂ Setting.Alike ss ss') :
    Alike (.settings ss) (.settings ss')
  | environment {env env' : Environment} (h : env.Alike env') :
    Alike (.environment env) (.environment env')

/-- What is seen of a run: the diagnostic texts of the settings that the client is made of, whether
it can be made, and what is seen of each event. -/
def account (w : Wiring ε σ) (world : World σ) (o : Origin ε) (events : List (Event ε σ)) :
    List String × Except Error (Face ε × List (Seen ε)) :=
  (o.texts, (o.make w.connect).map fun c => (c.face, Event.account w ⟨c, world⟩ events))

theorem make_alike (connect : Connect) {o o' : Origin ε} (h : o.Alike o') :
    Together Client.Alike (o.make connect) (o'.make connect) := by
  cases h with
  | settings h => exact Client.new_alike connect h
  | environment h => exact Client.ofEnvironment_alike connect h

theorem Alike.texts {o o' : Origin ε} (h : o.Alike o') : o.texts = o'.texts := by
  cases h with
  | environment h => rfl
  | settings h =>
    induction h with
    | nil => rfl
    | cons first _ ih => exact congrArg₂ List.cons first.summary ih

/-- Whatever a client is made of, whatever is done with it and however its executors answer: of two
runs that differ in nothing but keys that are alike, the same is seen. -/
theorem key_concealed {w : Wiring ε σ} {alike : σ → σ → Prop} (blind : w.Blind alike)
    {o o' : Origin ε} (origins : o.Alike o') {u v : World σ} (worlds : u.Alike alike v)
    {events events' : List (Event ε σ)} (same : List.Forall₂ (Event.Alike alike) events events') :
    o.account w u events = o'.account w v events' := by
  refine Prod.ext origins.texts ((make_alike w.connect origins).map_eq fun c d clients => ?_)
  exact Prod.ext clients.face (Event.account_alike blind same ⟨clients, worlds⟩)

/-- A client with a key and a scripted executor. -/
def keyed (key : String) : Origin ScriptedExecutor :=
  .settings [.apiKey key, .executor ⟨"server", none⟩]

/-- A call. -/
def ask : Event ScriptedExecutor Stage := .call ⟨⟨[0]⟩, none⟩ (.query (.network .chainInfo))

/-- Calls before and after the key is changed. -/
def rekeying (key : String) : List (Event ScriptedExecutor Stage) :=
  [ask, .set (.apiKey key), ask]

theorem key_concealed_rekeying :
    (∃ c d, (keyed "alpha").make Wiring.rehearsal.connect = .ok c ∧
      (keyed "beta").make Wiring.rehearsal.connect = .ok d ∧
      (ask.asked .rehearsal ⟨c, ⟨.start, {}⟩⟩).map (·.request.headers) =
        [[("user-agent", "whatsonchain-rs:v0.1.0"), ("woc-api-key", "alpha")]] ∧
      (ask.asked .rehearsal ⟨d, ⟨.start, {}⟩⟩).map (·.request.headers) =
        [[("user-agent", "whatsonchain-rs:v0.1.0"), ("woc-api-key", "beta")]]) ∧
    (keyed "alpha").account .rehearsal ⟨.start, {}⟩ (rekeying "gamma") =
      (keyed "beta").account .rehearsal ⟨.start, {}⟩ (rekeying "delta") := by
  have keys : ∀ {k k' : String}, k ≠ "" → k' ≠ "" → isHeaderValue k = true →
      isHeaderValue k' = true → KeysAlike k k' := fun there there' legal legal' =>
    ⟨⟨fun empty => absurd empty there, fun empty => absurd empty there'⟩,
      ⟨fun _ => (isHeaderValue_iff _).mp legal', fun _ => (isHeaderValue_iff _).mp legal⟩⟩
  refine ⟨⟨_, _, rfl, rfl, rfl, rfl⟩, ?_⟩
  refine key_concealed Wiring.rehearsal_blind (.settings ?_) ⟨rfl, rfl, rfl, rfl⟩ ?_
  · exact .cons (.key (keys (by decide) (by decide) (by decide) (by decide)))
      (.cons (.same _) .nil)
  · exact .cons (.call _ _) (.cons (.set (.key
      (keys (by decide) (by decide) (by decide) (by decide)))) (.cons (.call _ _) .nil))

end Origin

end ExplorerClient
