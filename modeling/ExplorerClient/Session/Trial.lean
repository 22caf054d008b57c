import ExplorerClient.Session.Script

/-!
# Trials of retrying

A trial gives one request to a retrying executor, on a timeline of its own, under a context that may
have a deadline and may be cancelled.
-/

namespace ExplorerClient

/-- What a retrying executor is tried with. -/
structure Trial where
  policy : RetryPolicy
  request : Request
  script : List Cue
  /-- The nanoseconds after which the context reaches its deadline. -/
  timeout : Option Nat := none
  /-- The nanoseconds after which the context is cancelled. -/
  cancelAfter : Option Nat := none
  /-- Does the executor reach no server, instead of answering from the script? -/
  offline : Bool := false

/-- What a trial brings. -/
structure TrialResult where
  outcome : Except Error Response
  sent : List Sent
  now : Nat
  /-- The cues that have not been played. -/
  left : Nat

namespace Trial

/-- The name of the context in the script. -/
def contextName : String := "c"

/-- The name of the executor. -/
def executorName : String := "x"

/-- The context of a trial and the world at its start. -/
def start (t : Trial) : Context × World Stage :=
  let (root, time) := Timeline.start.background
  let (c, time) := match t.timeout with
    | none => (root, time)
    | some nanos => time.withTimeout root nanos
  let time := match t.cancelAfter with
    | none => time
    | some nanos => time.cancelAt c nanos
  (c, ⟨time, { script := t.script, contexts := [(contextName, c)] }⟩)

/-- The executor that is retried. -/
def inner (t : Trial) : Executor Stage := if t.offline then .refuse else .scripted executorName

/-- Runs a trial, which need not come to an end. -/
def run (t : Trial) : Option TrialResult :=
  let (c, w) := t.start
  (t.inner.retrying t.policy (fun _ => 0) c t.request w).map fun (outcome, w) =>
    ⟨outcome, w.state.log.reverse, w.time.now, w.state.script.length⟩

end Trial

end ExplorerClient
