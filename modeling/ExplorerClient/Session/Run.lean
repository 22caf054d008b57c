import ExplorerClient.Client.Environment
import ExplorerClient.Client.Summary
import ExplorerClient.Endpoint.Operation
import ExplorerClient.Session.Script

/-!
# Sessions

A session holds named contexts, named handles of clients, a script and the time. It is taken from
step to step, and each step has an answer. A handle is a client with a context; several handles may
share a client, and then see each other's changes.
-/

namespace ExplorerClient

open Json

/-- A client with the context of its calls. -/
structure Handle where
  /-- The place of the client among those of the session. -/
  client : Nat
  context : Context

/-- The state of a session. -/
structure Session where
  world : World Stage
  clients : List (Client ScriptedExecutor) := []
  handles : List (String × Handle) := []

/-- How a context is made from another. -/
inductive Derivation where
  | background
  | clone
  | child
  | token
  /-- Ends after some nanoseconds. -/
  | timeout (nanos : Nat)
  /-- Ends at an instant. -/
  | deadline (instant : Nat)

/-- One step of a session. Names of contexts and of handles are texts. -/
inductive Step where
  | derive (name parent : String) (how : Derivation)
  | contextState (context : String)
  | contextStates
  | cancel (context : String)
  | cancelAfter (context : String) (nanos : Nat)
  | sleep (nanos : Nat)
  | wait (context : String) (nanos : Nat)
  | extend (script : List Cue)
  | pendingScript
  | new (name context : String) (settings : List (Setting ScriptedExecutor))
  | withContext (name handle context : String)
  | clone (name handle : String)
  | state (handle : String)
  | summary (handle : String)
  | optionsSummary (handle : String)
  | lastRequest (handle : String)
  | set (handle : String) (setting : Setting ScriptedExecutor)
  | setChainAndNetwork (handle : String) (chain : Chain) (network : Network)
  | buildUrl (handle template : String) (args : List Route.Argument)
  | call (handle : String) (operation : Operation)

/-- What is seen of a context. -/
structure ContextState where
  now : Nat
  error : Option Error
  isCancelled : Bool
  deadline : Option Nat

/-- The answer of a step. -/
inductive Answer where
  | done
  | checked (outcome : Except Error Unit)
  | url (outcome : Except Error String)
  | context (state : ContextState)
  | contexts (states : List (String × ContextState))
  | time (now : Nat)
  | waited (ended : Option Error) (now : Nat)
  | count (n : Nat)
  | client (state : Client ScriptedExecutor)
  | text (value : String)
  | lastRequest (last : LastRequest)
  | called (outcome : Except Error Shown) (sent : List Sent) (last : LastRequest) (now : Nat)

namespace Session

/-- The name of the context that every session starts with. -/
def background : String := "bg"

/-- The start of a session with a script. -/
def start (script : List Cue) : Session where
  world := ⟨.start, { script, contexts := [(background, ⟨⟨[0]⟩, none⟩)] }⟩

/-- The present instant. -/
def now (s : Session) : Nat := s.world.time.now

/-- The session at another time. -/
def withTime (s : Session) (time : Timeline) : Session := { s with world.time := time }

/-- What is seen of a context. -/
def contextState (s : Session) (c : Context) : ContextState :=
  ⟨s.now, s.world.time.err? c, s.world.time.isCancelled c, c.deadline⟩

/-- The context of a name. -/
def context? (s : Session) (name : String) : Option Context := s.world.state.context? name

/-- The handle of a name with its client. -/
def handle? (s : Session) (name : String) : Option (Handle × Client ScriptedExecutor) := do
  let handle ← s.handles.lookup name
  let client ← s.clients[handle.client]?
  pure (handle, client)

/-- The session with a name for a handle, which may have named another one before. -/
def putHandle (s : Session) (name : String) (h : Handle) : Session :=
  { s with handles := (name, h) :: s.handles.filter (·.1 != name) }

/-- The session with another state of a handle's client. -/
def putClient (s : Session) (h : Handle) (c : Client ScriptedExecutor) : Session :=
  { s with clients := s.clients.set h.client c }

/-- A context made from another. -/
def derive (t : Timeline) (parent : Context) : Derivation → Context × Timeline
  | .background => t.background
  | .clone => (parent, t)
  | .child => t.child parent
  | .token => (Timeline.withToken parent.token, t)
  | .timeout nanos => t.withTimeout parent nanos
  | .deadline instant => t.withDeadline parent instant

/-- Carries out an operation through a handle. -/
def call (s : Session) (h : Handle) (c : Client ScriptedExecutor) (operation : Operation) :
    Option (Answer × Session) :=
  let world := { s.world with state.log := [] }
  (operation.call .rehearsal h.context ⟨c, world⟩).map fun (outcome, live) =>
    (.called outcome live.world.state.log.reverse live.client.last live.world.time.now,
      { s.putClient h live.client with world := live.world })

/-- Changes a client through a handle, unless that fails. -/
def change (s : Session) (h : Handle) (outcome : Except Error (Client ScriptedExecutor)) :
    Answer × Session :=
  match outcome with
  | .ok c => (.checked (.ok ()), s.putClient h c)
  | .error e => (.checked (.error e), s)

/-- Takes a step: its answer and the session afterwards. There is none if the step names what is
not there, or never comes to an end. -/
def step (s : Session) : Step → Option (Answer × Session)
  | .derive name parent how => do
    let parent ← s.context? parent
    let (c, time) := derive s.world.time parent how
    let s : Session := { s with world := ⟨time, s.world.state.name name c⟩ }
    pure (.context (s.contextState c), s)
  | .contextState context => do
    let c ← s.context? context
    pure (.context (s.contextState c), s)
  | .contextStates =>
    pure (.contexts (s.world.state.contexts.map fun (name, c) => (name, s.contextState c)), s)
  | .cancel context => do
    let c ← s.context? context
    let s := s.withTime (s.world.time.cancel c)
    pure (.context (s.contextState c), s)
  | .cancelAfter context nanos => do
    let c ← s.context? context
    pure (.done, s.withTime (s.world.time.cancelAt c (s.now + nanos)))
  | .sleep nanos =>
    let s := s.withTime (s.world.time.advance nanos)
    pure (.time s.now, s)
  | .wait context nanos => do
    let c ← s.context? context
    let (ended, time) := s.world.time.pause c nanos
    pure (.waited ended time.now, s.withTime time)
  | .extend script =>
    pure (.done, { s with world.state.script := s.world.state.script ++ script })
  | .pendingScript => pure (.count s.world.state.script.length, s)
  | .new name context settings => do
    let context ← s.context? context
    match Client.new Wiring.rehearsal.connect settings with
    | .error e => pure (.checked (.error e), s)
    | .ok c =>
      let s := { s with clients := s.clients ++ [c] }
      pure (.checked (.ok ()), s.putHandle name ⟨s.clients.length - 1, context⟩)
  | .withContext name handle context => do
    let (h, _) ← s.handle? handle
    let c ← s.context? context
    pure (.context (s.contextState c), s.putHandle name ⟨h.client, c⟩)
  | .clone name handle => do
    let (h, _) ← s.handle? handle
    pure (.done, s.putHandle name h)
  | .state handle => do
    let (_, c) ← s.handle? handle
    pure (.client c, s)
  | .summary handle => do
    let (_, c) ← s.handle? handle
    pure (.text c.summary, s)
  | .optionsSummary handle => do
    let (_, c) ← s.handle? handle
    pure (.text c.options.summary, s)
  | .lastRequest handle => do
    let (_, c) ← s.handle? handle
    pure (.lastRequest c.last, s)
  | .set handle setting => do
    let (h, c) ← s.handle? handle
    let (answer, s) := s.change h (c.set Wiring.rehearsal.connect setting)
    pure (if setting.isUnchecked then .done else answer, s)
  | .setChainAndNetwork handle chain network => do
    let (h, c) ← s.handle? handle
    pure (s.change h (c.setChainAndNetwork chain network))
  | .buildUrl handle template args => do
    let (_, c) ← s.handle? handle
    pure (.url (c.buildUrl template args), s)
  | .call handle operation => do
    let (h, c) ← s.handle? handle
    s.call h c operation

/-- Takes steps in order, as long as each has an answer. -/
def run (s : Session) : List Step → List Answer
  | [] => []
  | first :: rest =>
    match s.step first with
    | none => []
    | some (answer, s) => answer :: s.run rest

end Session

end ExplorerClient
