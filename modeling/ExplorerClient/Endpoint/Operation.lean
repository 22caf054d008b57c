import ExplorerClient.Endpoint.Address
import ExplorerClient.Endpoint.Block
import ExplorerClient.Endpoint.Network
import ExplorerClient.Endpoint.Transaction

/-!
# Operations of a client

An operation is a single query, or several that belong together: both halves of a balance or of a
history, one after the other, or a list that is too long for one request, in pieces. Queries that
belong together stop at the first that fails.

Results:
* `pieces_flatten`: the pieces of a list put together are the list.
-/

namespace ExplorerClient

open Json

/-- A single exchange. -/
inductive Query where
  | address (query : AddressQuery)
  | script (query : ScriptQuery)
  | block (query : BlockQuery)
  | network (query : NetworkQuery)
  | token (query : TokenQuery)
  | transaction (query : TransactionQuery)

/-- The endpoint of a query. -/
def Query.entry : Query → Entry
  | .address query => query.entry
  | .script query => query.entry
  | .block query => query.entry
  | .network query => query.entry
  | .token query => query.entry
  | .transaction query => query.entry

/-! ## Exchanges in a row -/

namespace Call

variable {ε σ α β : Type}

/-- Something that is done with the value of something else, unless that fails. -/
def andThen (first : Call ε σ α) (next : α → Call ε σ β) : Call ε σ β := fun live =>
  match first live with
  | none => none
  | some (.error e, live) => some (.error e, live)
  | some (.ok value, live) => next value live

/-- The value of something, changed. -/
def map (f : α → β) (call : Call ε σ α) : Call ε σ β := fun live =>
  (call live).map fun (answer, live) => (answer.map f, live)

/-- Does something for every element of a list in order, and puts the lists it gives together. -/
def each (call : α → Call ε σ (List β)) : List α → Call ε σ (List β)
  | [] => fun live => some (.ok [], live)
  | a :: rest => andThen (call a) fun found => map (found ++ ·) (each call rest)

end Call

/-- The list in pieces of `size` elements, of which the last may be shorter. -/
def pieces {α : Type} (size : Nat) : List α → List (List α)
  | [] => []
  | x :: xs => (x :: xs.take (size - 1)) :: pieces size (xs.drop (size - 1))
termination_by xs => xs.length
decreasing_by
  simp only [List.length_drop, List.length_cons]
  omega

theorem pieces_flatten {α : Type} (size : Nat) (xs : List α) : (pieces size xs).flatten = xs := by
  fun_induction pieces size xs with
  | case1 => rfl
  | case2 x xs ih => simp [ih]

/-- Does something for the pieces of a list that is not empty (`process_in_chunks`). -/
def inPieces {ε σ α β : Type} (size : Nat) (call : List α → Call ε σ (List β)) (xs : List α) :
    Call ε σ (List β) := fun live =>
  if xs.isEmpty then some (.error .missingRequest, live) else Call.each call (pieces size xs) live

/-! ## Operations -/

/-- Something that a client can be asked to do. -/
inductive Operation where
  | query (query : Query)
  /-- Confirmed and unconfirmed balance of an address. -/
  | balance (address : String)
  /-- Confirmed and unconfirmed history of an address. -/
  | history (address : String)
  /-- Confirmed balances of any number of addresses. -/
  | allBalances (addresses : List String)
  /-- Confirmed unspent outputs of any number of addresses. -/
  | allUnspents (addresses : List String)
  /-- Any number of transactions. -/
  | allDetails (txids : List String)

/-- A balance of its two halves. -/
def Balance.merge (confirmed unconfirmed : Balance) : Balance :=
  ⟨confirmed.confirmed, unconfirmed.unconfirmed⟩

/-- A history of its two halves, of which the first says everything but the entries of the second,
and the address if the first leaves it out. -/
def HistoryPage.merge (confirmed unconfirmed : HistoryPage) : HistoryPage :=
  { confirmed with
    result := confirmed.result ++ unconfirmed.result
    address := if confirmed.address = "" then unconfirmed.address else confirmed.address }

section

variable {ε σ : Type} (w : Wiring ε σ) (ctx : Context)

/-- Carries out a query about addresses. -/
def AddressQuery.call (q : AddressQuery) : Call ε σ q.entry.α := q.entry.endpoint.call w ctx

/-- Carries out a query about transactions. -/
def TransactionQuery.call (q : TransactionQuery) : Call ε σ q.entry.α :=
  q.entry.endpoint.call w ctx

/-- Carries out a query. -/
def Query.call (q : Query) : Call ε σ q.entry.α := q.entry.endpoint.call w ctx

/-- The balance of an address, from two exchanges (`get_address_balance`). -/
def Call.balance (address : String) : Call ε σ Balance :=
  ((AddressQuery.confirmedBalance address).call w ctx).andThen fun confirmed =>
    ((AddressQuery.unconfirmedBalance address).call w ctx).map fun unconfirmed =>
      Balance.merge confirmed unconfirmed

/-- The history of an address, from two exchanges (`get_address_history`). -/
def Call.history (address : String) : Call ε σ HistoryPage :=
  ((AddressQuery.confirmedHistory address).call w ctx).andThen fun confirmed =>
    ((AddressQuery.unconfirmedHistory address).call w ctx).map fun unconfirmed =>
      HistoryPage.merge confirmed unconfirmed

/-- The balances of any number of addresses (`bulk_balance_processor`). -/
def Call.allBalances (addresses : List String) : Call ε σ (List AddressBalance) :=
  inPieces maxAddresses (fun piece => (AddressQuery.confirmedBalances piece).call w ctx) addresses

/-- The unspent outputs of any number of addresses (`bulk_unspent_processor`). -/
def Call.allUnspents (addresses : List String) : Call ε σ (List UnspentPage) :=
  inPieces maxAddresses (fun piece => (AddressQuery.confirmedUnspents piece).call w ctx) addresses

/-- Any number of transactions (`bulk_tx_details_processor`). -/
def Call.allDetails (txids : List String) : Call ε σ (List TxInfo) :=
  inPieces maxTransactions (fun piece => (TransactionQuery.details piece).call w ctx) txids

/-- Carries out an operation and shows its answer. -/
def Operation.call : Operation → Call ε σ Shown
  | .query q => (q.call w ctx).map q.entry.shown
  | .balance a => (Call.balance w ctx a).map fun b => .json ((Record.codec Balance).write b)
  | .history a => (Call.history w ctx a).map fun h => .json ((Record.codec HistoryPage).write h)
  | .allBalances as =>
    (Call.allBalances w ctx as).map fun bs =>
      .json ((Codec.list (Record.codec AddressBalance)).write bs)
  | .allUnspents as =>
    (Call.allUnspents w ctx as).map fun us =>
      .json ((Codec.list (Record.codec UnspentPage)).write us)
  | .allDetails ids =>
    (Call.allDetails w ctx ids).map fun ts => .json ((Codec.list (Record.codec TxInfo)).write ts)

end

end ExplorerClient
