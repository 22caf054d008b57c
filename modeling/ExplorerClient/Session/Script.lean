import ExplorerClient.Client.Exchange

/-!
# Scripted executors

Instead of asking a server, a scripted executor takes its answers from a script that it shares with
others, one cue for each request. It keeps a log of the requests it was given.
-/

namespace ExplorerClient

/-- What comes of a request. -/
inductive Outcome where
  | fail (error : Error)
  | respond (response : Response)

/-- One entry of a script. -/
structure Cue where
  /-- The name of a context that is cancelled first. -/
  cancel : Option String := none
  /-- The nanoseconds that pass then, if the context of the request is looked at again. -/
  delay : Option Nat := none
  outcome : Outcome

/-- What is done when a script has come to its end. -/
def Cue.exhausted : Cue := { outcome := .respond ⟨500, "no scripted response".toUTF8, .complete⟩ }

/-- A request that an executor was given. -/
structure Sent where
  /-- The name of the executor. -/
  via : String
  /-- The instant at which it was given the request. -/
  instant : Nat
  request : Request

/-- A script with the contexts it may name, and the log of requests. -/
structure Stage where
  script : List Cue := []
  contexts : List (String × Context) := []
  /-- The requests so far, the last one first. -/
  log : List Sent := []

/-- A scripted executor: its name, and how it retries if it does. -/
structure ScriptedExecutor where
  name : String
  retry : Option RetryPolicy := none
  deriving DecidableEq

namespace Stage

/-- The context of a name. -/
def context? (s : Stage) (name : String) : Option Context := s.contexts.lookup name

/-- The stage with a name for a context, which may have named another one before. -/
def name (s : Stage) (name : String) (c : Context) : Stage :=
  { s with contexts := (name, c) :: s.contexts.filter (·.1 != name) }

end Stage

namespace Cue

/-- The timeline after the cancellation that a cue asks for. -/
def cancelled (cue : Cue) (s : Stage) (t : Timeline) : Timeline :=
  match cue.cancel with
  | none => t
  | some name =>
    match s.context? name with
    | none => t
    | some c => t.cancel c

/-- The wait that a cue asks for. -/
def wait (cue : Cue) (c : Context) (t : Timeline) : Option Error × Timeline :=
  match cue.delay with
  | none => (none, t)
  | some nanos => t.pause c nanos

/-- Plays a cue under a context. -/
def play (cue : Cue) (c : Context) (w : World Stage) : Except Error Response × World Stage :=
  let (ended, time) := cue.wait c (cue.cancelled w.state w.time)
  let answer := match ended, cue.outcome with
    | some e, _ => .error e
    | none, .fail e => .error e
    | none, .respond response => .ok response
  (answer, { w with time })

end Cue

/-- The executor that answers from the script without retrying. -/
def Executor.scripted (name : String) : Executor Stage := fun c request w =>
  let stage := { w.state with log := ⟨name, w.time.now, request⟩ :: w.state.log }
  match w.time.err? c with
  | some e => some (.error e, { w with state := stage })
  | none =>
    match stage.script with
    | [] => some (Cue.exhausted.play c { w with state := stage })
    | cue :: rest => some (cue.play c { w with state := { stage with script := rest } })

/-- Scripted executors retry without a jitter, and managed ones reach no server. -/
def Wiring.rehearsal : Wiring ScriptedExecutor Stage where
  supplied e :=
    match e.retry with
    | none => .scripted e.name
    | some policy => (Executor.scripted e.name).retrying policy fun _ => 0
  managed _ := .refuse
  random _ := 0
  connect _ := .ok ()

end ExplorerClient
