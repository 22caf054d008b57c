import ExplorerClient.Context
import ExplorerClient.Http.Message

/-!
# Executors

An executor carries out requests. It acts in a world, of which the library only knows the time; what
else there is in it, such as a network or a script, belongs to the executor. An executor need not
come to an end.
-/

namespace ExplorerClient

/-- The time, and whatever else executors act on. -/
structure World (σ : Type) where
  time : Timeline
  state : σ

/-- Carries out a request under a context (`HttpExecutor`): the answer and the world afterwards, or
nothing if there never is an answer. -/
abbrev Executor (σ : Type) :=
  Context → Request → World σ → Option (Except Error Response × World σ)

namespace World

variable {σ : Type}

/-- Waits under a context. -/
def pause (w : World σ) (c : Context) (nanos : Nat) : Option Error × World σ :=
  let (ended, time) := w.time.pause c nanos
  (ended, { w with time })

end World

/-- Reads the body of a response under a context. An ended context wins over a body that is
there. -/
def Response.readBody (r : Response) (c : Context) (t : Timeline) :
    Option (Except Error ByteArray × Timeline) :=
  match r.bodyEnd with
  | .pending => (t.untilEnd c).map fun (e, t) => (.error e, t)
  | .broken => some (match t.err? c with
    | some e => .error e
    | none => .error (.transport none), t)
  | .complete => some (match t.err? c with
    | some e => .error e
    | none => .ok r.body, t)

/-- The executor of a client that reaches no server: under a live context every request fails. -/
def Executor.refuse {σ : Type} : Executor σ := fun c _ w =>
  match w.time.err? c with
  | some e => some (.error e, w)
  | none => some (.error (.transport none), w)

end ExplorerClient
