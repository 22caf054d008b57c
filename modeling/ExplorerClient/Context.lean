import ExplorerClient.Error

/-!
# Contexts and the course of time

A context bounds the calls made under it: it ends when its token is cancelled or when its deadline
is reached. Tokens form a tree, and cancelling one cancels all that descend from it. Time stands
still while anything is computed and moves only in waits, so it is a value: the present instant, in
nanoseconds from the start, and the cancellations that have been made or are due.

Results:
* `pause_live`: a wait under a context that never ends takes exactly as long as it should.
-/

namespace ExplorerClient

/-- A cancellation token: its number, and those of its ancestors from its parent on. -/
structure Token where
  path : List Nat
  deriving DecidableEq

/-- Is `ancestor` the token itself or one from which it descends? -/
def Token.descendsFrom (t ancestor : Token) : Bool := ancestor.path.isSuffixOf t.path

/-- What bounds a call. -/
structure Context where
  token : Token
  /-- The instant at which the context ends, if it has not been cancelled before. -/
  deadline : Option Nat
  deriving DecidableEq

/-- The present instant and the cancellations. -/
structure Timeline where
  now : Nat
  /-- Tokens with the instants of their cancellation, which may be still to come. -/
  cancellations : List (Token × Nat)
  /-- The number of the next token. -/
  fresh : Nat

namespace Timeline

/-- The start of time, when there are no tokens but the first. -/
def start : Timeline := ⟨0, [], 1⟩

/-! ## Making contexts -/

/-- A context without a deadline and with a token of its own that descends from none. -/
def background (t : Timeline) : Context × Timeline :=
  (⟨⟨[t.fresh]⟩, none⟩, { t with fresh := t.fresh + 1 })

/-- A token that descends from another. -/
def childToken (t : Timeline) (parent : Token) : Token × Timeline :=
  (⟨t.fresh :: parent.path⟩, { t with fresh := t.fresh + 1 })

/-- A context that can be cancelled without its parent. -/
def child (t : Timeline) (parent : Context) : Context × Timeline :=
  let (token, t) := t.childToken parent.token
  (⟨token, parent.deadline⟩, t)

/-- The earlier of a deadline and an instant. -/
def earlier (deadline : Option Nat) (instant : Nat) : Nat :=
  match deadline with
  | some d => min d instant
  | none => instant

/-- A child that ends at an instant at the latest (`with_deadline`). -/
def withDeadline (t : Timeline) (parent : Context) (instant : Nat) : Context × Timeline :=
  let (token, t) := t.childToken parent.token
  (⟨token, some (earlier parent.deadline instant)⟩, t)

/-- A child that ends after some nanoseconds at the latest (`with_timeout`). -/
def withTimeout (t : Timeline) (parent : Context) (nanos : Nat) : Context × Timeline :=
  t.withDeadline parent (t.now + nanos)

/-- A context with the given token and without a deadline (`with_cancellation`). -/
def withToken (token : Token) : Context := ⟨token, none⟩

/-! ## Ending contexts -/

/-- Cancels a context, and all whose tokens descend from its token, at an instant. -/
def cancelAt (t : Timeline) (c : Context) (instant : Nat) : Timeline :=
  { t with cancellations := (c.token, instant) :: t.cancellations }

/-- Cancels a context now. -/
def cancel (t : Timeline) (c : Context) : Timeline := t.cancelAt c t.now

/-- The instants at which a context is cancelled. -/
def cancelInstants (t : Timeline) (c : Context) : List Nat :=
  (t.cancellations.filter fun (token, _) => c.token.descendsFrom token).map (·.2)

/-- Has the context been cancelled? -/
def isCancelled (t : Timeline) (c : Context) : Bool := (t.cancelInstants c).any (· ≤ t.now)

/-- Has the context reached its deadline? -/
def isOverdue (t : Timeline) (c : Context) : Bool := c.deadline.any (· ≤ t.now)

/-- The error of a context that has ended (`err`). A cancellation tells more than a deadline. -/
def err? (t : Timeline) (c : Context) : Option Error :=
  if t.isCancelled c then some .canceled
  else if t.isOverdue c then some .deadlineExceeded
  else none

/-- The instant at which the context ends, if nothing else happens, and its error then. -/
def ending? (t : Timeline) (c : Context) : Option (Nat × Error) :=
  match (t.cancelInstants c).min?, c.deadline with
  | some k, some d => if k ≤ d then some (k, .canceled) else some (d, .deadlineExceeded)
  | some k, none => some (k, .canceled)
  | none, some d => some (d, .deadlineExceeded)
  | none, none => none

/-! ## Waiting -/

/-- Lets time pass. -/
def advance (t : Timeline) (nanos : Nat) : Timeline := { t with now := t.now + nanos }

/-- Waits under a context. The wait is cut short by the end of the context, also if the two fall
together. -/
def pause (t : Timeline) (c : Context) (nanos : Nat) : Option Error × Timeline :=
  match t.err? c with
  | some e => (some e, t)
  | none =>
    match t.ending? c with
    | some (instant, e) =>
      if instant ≤ t.now + nanos then (some e, { t with now := instant })
      else (none, t.advance nanos)
    | none => (none, t.advance nanos)

/-- Waits for the end of a context, which need not come (`done`). -/
def untilEnd (t : Timeline) (c : Context) : Option (Error × Timeline) :=
  match t.err? c with
  | some e => some (e, t)
  | none => (t.ending? c).map fun (instant, e) => (e, { t with now := instant })

theorem pause_live {t : Timeline} {c : Context} (never : t.ending? c = none)
    (live : t.err? c = none) (nanos : Nat) : t.pause c nanos = (none, t.advance nanos) := by
  simp [pause, live, never]

end Timeline

end ExplorerClient
