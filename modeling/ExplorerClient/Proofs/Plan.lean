import ExplorerClient.Endpoint.Operation

/-!
# Plans of calls

A call is laid out as a plan, a tree of queries in which each one may depend on the values before
it. What is to be known of every operation is then proved by induction over plans.

Results:
* `ok_of_bind`, `error_of_bind`: how a step that may fail came out.
* `Operation.plan_call`: an operation does what its plan says.
-/

namespace ExplorerClient

open Json

variable {ε σ α β : Type}

/-! ## Steps that may fail -/

theorem ok_of_bind {x : Except Error α} {f : α → Except Error β} {b : β}
    (h : x >>= f = .ok b) : ∃ a, x = .ok a ∧ f a = .ok b := by
  cases x with
  | error e => cases h
  | ok a => exact ⟨a, rfl, h⟩

theorem error_of_bind {x : Except Error α} {f : α → Except Error β} {e : Error}
    (h : x >>= f = .error e) : x = .error e ∨ ∃ a, x = .ok a ∧ f a = .error e := by
  cases x with
  | error e' =>
    cases h
    exact Or.inl rfl
  | ok a => exact Or.inr ⟨a, rfl, h⟩

/-! ## Plans -/

/-- What is to be done with a client. -/
inductive Plan : Type → Type 1 where
  /-- Nothing more is asked. -/
  | done {α : Type} (answer : Except Error α) : Plan α
  /-- One exchange. -/
  | ask (query : Query) : Plan query.entry.α
  /-- Something, and then what depends on its value, unless it fails. -/
  | andThen {α β : Type} (first : Plan α) (next : α → Plan β) : Plan β

namespace Plan

/-- The same with another value. -/
def map (f : α → β) (p : Plan α) : Plan β := p.andThen fun a => .done (.ok (f a))

/-- The same for every element of a list in order, with the lists it gives put together. -/
def each (p : α → Plan (List β)) : List α → Plan (List β)
  | [] => .done (.ok [])
  | a :: rest => (p a).andThen fun found => (each p rest).map (found ++ ·)

/-- The same for the pieces of a list that is not empty. -/
def inPieces (size : Nat) (p : List α → Plan (List β)) (xs : List α) : Plan (List β) :=
  if xs.isEmpty then .done (.error .missingRequest) else each p (pieces size xs)

/-- Carries out a plan. -/
def call (w : Wiring ε σ) (ctx : Context) : {α : Type} → Plan α → Call ε σ α
  | _, .done answer => fun live => some (answer, live)
  | _, .ask query => query.call w ctx
  | _, .andThen first next => (first.call w ctx).andThen fun a => (next a).call w ctx

theorem call_map (w : Wiring ε σ) (ctx : Context) (f : α → β) (p : Plan α) :
    (p.map f).call w ctx = (p.call w ctx).map f := by
  funext live
  simp only [map, call, Call.andThen, Call.map]
  cases p.call w ctx live with
  | none => rfl
  | some r => obtain ⟨_ | _, _⟩ := r <;> rfl

theorem call_each (w : Wiring ε σ) (ctx : Context) (p : α → Plan (List β)) (xs : List α) :
    (each p xs).call w ctx = Call.each (fun x => (p x).call w ctx) xs := by
  induction xs with
  | nil => rfl
  | cons x xs ih =>
    simp only [each, Call.each, call, call_map, ih]

theorem call_inPieces (w : Wiring ε σ) (ctx : Context) (size : Nat) (p : List α → Plan (List β))
    (xs : List α) :
    (inPieces size p xs).call w ctx =
      ExplorerClient.inPieces size (fun piece => (p piece).call w ctx) xs := by
  funext live
  rw [inPieces, ExplorerClient.inPieces]
  split
  · rfl
  · rw [call_each]

end Plan

/-- The plan of an operation. -/
def Operation.plan : Operation → Plan Shown
  | .query q => (Plan.ask q).map q.entry.shown
  | .balance a =>
    (Plan.andThen (.ask (.address (.confirmedBalance a))) fun confirmed =>
      (Plan.ask (.address (.unconfirmedBalance a))).map fun unconfirmed =>
        Balance.merge confirmed unconfirmed).map fun b => .json ((Record.codec Balance).write b)
  | .history a =>
    (Plan.andThen (.ask (.address (.confirmedHistory a))) fun confirmed =>
      (Plan.ask (.address (.unconfirmedHistory a))).map fun unconfirmed =>
        HistoryPage.merge confirmed unconfirmed).map fun h =>
          .json ((Record.codec HistoryPage).write h)
  | .allBalances as =>
    (Plan.inPieces maxAddresses
      (fun piece => (.ask (.address (.confirmedBalances piece)) : Plan (List AddressBalance)))
      as).map fun bs => .json ((Codec.list (Record.codec AddressBalance)).write bs)
  | .allUnspents as =>
    (Plan.inPieces maxAddresses
      (fun piece => (.ask (.address (.confirmedUnspents piece)) : Plan (List UnspentPage)))
      as).map fun us => .json ((Codec.list (Record.codec UnspentPage)).write us)
  | .allDetails ids =>
    (Plan.inPieces maxTransactions
      (fun piece => (.ask (.transaction (.details piece)) : Plan (List TxInfo)))
      ids).map fun ts => .json ((Codec.list (Record.codec TxInfo)).write ts)

theorem Operation.plan_call (w : Wiring ε σ) (ctx : Context) (op : Operation) :
    op.plan.call w ctx = op.call w ctx := by
  cases op with
  | query q => exact Plan.call_map ..
  | balance a | history a =>
    refine (Plan.call_map ..).trans (congrArg (Call.map _) ?_)
    exact congrArg (Call.andThen _) (funext fun confirmed => Plan.call_map ..)
  | allBalances as | allUnspents as | allDetails ids =>
    refine (Plan.call_map ..).trans (congrArg (Call.map _) ?_)
    exact Plan.call_inPieces ..

end ExplorerClient
