import ExplorerClient.Proofs.Each
import ExplorerClient.Proofs.ReadBack
import ExplorerClient.Proofs.Required

/-!
# Lists that are processed in pieces

Three things can be looked up for a list of texts of any length. A plain method asks for all of them
at once and takes no more than twenty; its processor asks the plain method for one piece of the list
after the other.

Results:
* `Bulk.ask_asks`: what is asked for a piece, and that the piece is read back from its body.
* `Bulk.call_short`: on a list that the plain method takes, the processor does the same.
* `Bulk.plan_append`: a list whose length is a multiple of twenty, and what follows it.
* `Bulk.processed`: what is asked for the pieces of a list, and how that ends.
-/

namespace ExplorerClient

open Json

variable {ε σ : Type}

/-! ## Lists of texts -/

/-- What can be looked up for a list of texts. -/
inductive Bulk where
  | balances
  | unspents
  | details

namespace Bulk

/-- What is found for each of the texts. -/
def Item : Bulk → Type
  | .balances => AddressBalance
  | .unspents => UnspentPage
  | .details => TxInfo

/-- The query for a list. -/
def query : Bulk → List String → Query
  | .balances, xs => .address (.confirmedBalances xs)
  | .unspents, xs => .address (.confirmedUnspents xs)
  | .details, xs => .transaction (.details xs)

/-- The name of the list in the body of a request. -/
def name : Bulk → String
  | .balances | .unspents => "addresses"
  | .details => "txids"

/-- The operation of the processor. -/
def operation : Bulk → List String → Operation
  | .balances => .allBalances
  | .unspents => .allUnspents
  | .details => .allDetails

/-- The plain method. -/
def plain (w : Wiring ε σ) (ctx : Context) : (b : Bulk) → List String → Call ε σ (List b.Item)
  | .balances, xs => (AddressQuery.confirmedBalances xs).call w ctx
  | .unspents, xs => (AddressQuery.confirmedUnspents xs).call w ctx
  | .details, xs => (TransactionQuery.details xs).call w ctx

/-- The processor. -/
def call (w : Wiring ε σ) (ctx : Context) : (b : Bulk) → List String → Call ε σ (List b.Item)
  | .balances => Call.allBalances w ctx
  | .unspents => Call.allUnspents w ctx
  | .details => Call.allDetails w ctx

/-- The plan of the plain method. -/
def ask : (b : Bulk) → List String → Plan (List b.Item)
  | .balances, xs => (.ask (.address (.confirmedBalances xs)) : Plan (List AddressBalance))
  | .unspents, xs => (.ask (.address (.confirmedUnspents xs)) : Plan (List UnspentPage))
  | .details, xs => (.ask (.transaction (.details xs)) : Plan (List TxInfo))

/-- The plan of the processor. -/
def plan (b : Bulk) (xs : List String) : Plan (List b.Item) := .inPieces 20 b.ask xs

/-- The body of the request, read back, is an object that holds just this list. -/
def Holds (b : Bulk) (request : Request) (xs : List String) : Prop :=
  ∃ bytes, request.body = some (.buffered bytes) ∧
    decode Codec.any bytes.data.toList = .ok (.object [(b.name, .texts xs)])

variable {w : Wiring ε σ} {ctx : Context} {live : Live ε σ}

theorem ask_call (b : Bulk) (xs : List String) :
    (b.ask xs).call w ctx = b.plain w ctx xs := by
  cases b <;> rfl

theorem plan_call (b : Bulk) (xs : List String) : (b.plan xs).call w ctx = b.call w ctx xs := by
  cases b <;> exact Plan.call_inPieces ..

/-- The operation asks what the processor asks. -/
theorem operation_asked (b : Bulk) (xs : List String) :
    ((b.operation xs).course w ctx live).asked = ((b.plan xs).course w ctx live).asked := by
  cases b <;> exact congrArg Course.asked (Plan.map_course ..)

/-! ## One piece -/

theorem query_body (b : Bulk) (xs : List String) :
    (b.query xs).inquiry.body = some (Value.object [(b.name, .texts xs)]).render ∧
      (b.query xs).inquiry.method.sendsBody = true := by
  cases b <;> exact ⟨rfl, rfl⟩

theorem query_holds {b : Bulk} {xs : List String} {c : Client ε} {url : String}
    {request : Request} (handed : (b.query xs).handed c = .ok (url, request)) :
    b.Holds request xs := by
  obtain ⟨text, sends⟩ := b.query_body xs
  obtain ⟨-, -, body⟩ := Client.request_ok (Query.handed_ok handed).2
  rw [text, if_pos sends] at body
  exact ⟨_, body, decode_texts b.name xs⟩

/-- Nothing is required for a list but its length. -/
theorem query_requirements (b : Bulk) {xs : List String} (some_there : 1 ≤ xs.length)
    (short : xs.length ≤ 20) (chain : Chain) : Met ((b.query xs).requirements chain) := by
  cases b <;> exact Requirement.count_met some_there short

theorem ask_asked (b : Bulk) (xs : List String) :
    ((b.ask xs).course w ctx live).asked = ((b.query xs).course w ctx live).asked := by
  cases b <;> rfl

/-- For a piece exactly one request is made, and the piece is read back from its body. -/
theorem ask_asks (b : Bulk) {xs : List String} (some_there : 1 ≤ xs.length)
    (short : xs.length ≤ 20) (headers : Met (Requirement.headers live.client.options)) :
    ∃ a, ((b.ask xs).course w ctx live).asked = [a] ∧
      a.query = b.query xs ∧ b.Holds a.request xs := by
  have arguments := b.query_requirements some_there short live.client.options.chain
  obtain ⟨a, asked, same, handed⟩ := Query.course_asks w ctx arguments headers
  exact ⟨a, (b.ask_asked xs).trans asked, same, query_holds handed⟩

/-! ## All pieces -/

theorem plan_eq_each (b : Bulk) {xs : List String} (there : xs ≠ []) :
    b.plan xs = .each b.ask (pieces 20 xs) := by
  rw [plan, Plan.inPieces, if_neg (by simpa using there)]

/-- On a list that the plain method takes, the processor does the same. -/
theorem call_short (b : Bulk) {xs : List String} (there : xs ≠ []) (short : xs.length ≤ 20) :
    b.call w ctx xs = b.plain w ctx xs := by
  rw [← plan_call, ← ask_call, plan_eq_each b there, pieces_of_length_le there short]
  funext live
  rw [← Plan.course_ended, ← Plan.course_ended, Plan.each_cons]
  have alone : ∀ found (after : Live ε σ),
      ((Plan.each b.ask []).course w ctx after).map (found ++ ·) =
        ⟨[], some (.ok found), after⟩ := by
    intro found after
    simp [Plan.each, Plan.course, Course.map, Except.map]
  simp only [alone]
  cases (b.ask xs).course w ctx live with
  | mk asked answer after => rcases answer with _ | _ | _ <;> rfl

/-- A list whose length is a multiple of twenty is processed before what follows it. -/
theorem plan_append (b : Bulk) {xs ys : List String} (there : xs ≠ []) (there' : ys ≠ [])
    (even : 20 ∣ xs.length) (live : Live ε σ) :
    (b.plan (xs ++ ys)).course w ctx live =
      ((b.plan xs).course w ctx live).andThen fun found live =>
        ((b.plan ys).course w ctx live).map (found ++ ·) := by
  have both : xs ++ ys ≠ [] := List.append_ne_nil_of_left_ne_nil there ys
  rw [plan_eq_each b both, plan_eq_each b there, plan_eq_each b there',
    pieces_append (by decide) even, Plan.each_append]

theorem call_append (b : Bulk) {xs ys : List String} (there : xs ≠ []) (there' : ys ≠ [])
    (even : 20 ∣ xs.length) (live : Live ε σ) :
    b.call w ctx (xs ++ ys) live =
      (b.call w ctx xs).andThen (fun found => (b.call w ctx ys).map (found ++ ·)) live := by
  rw [← plan_call, ← Plan.course_ended, plan_append b there there' even, Course.ended_andThen,
    Plan.course_ended, plan_call, Call.andThen]
  rcases b.call w ctx xs live with _ | ⟨_ | found, after⟩
  · rfl
  · rfl
  · simp only [Course.map_ended, Plan.course_ended, plan_call]
    rfl

theorem asked_append (b : Bulk) {xs ys : List String} (there : xs ≠ []) (there' : ys ≠ [])
    (even : 20 ∣ xs.length) (live : Live ε σ) :
    ((b.operation (xs ++ ys)).course w ctx live).asked =
      ((b.operation xs).course w ctx live).asked ++
        match b.call w ctx xs live with
        | some (.ok _, after) => ((b.operation ys).course w ctx after).asked
        | _ => [] := by
  simp only [operation_asked]
  rw [plan_append b there there' even, ← plan_call, ← Plan.course_ended, Course.ended,
    Course.andThen]
  rcases ((b.plan xs).course w ctx live).answer with _ | _ | _ <;> simp [Course.map]

end Bulk

/-- What a processor does with a list that holds something. The list is cut into pieces of exactly
twenty, of which only the last may be shorter. For each of the first pieces, in order, one request
is handed to the executor, from whose body just that piece is read back. The last of these is the
last piece of all, or the one at which the plain method fails or never comes to an end. If the plain
method finds something for every piece, the processor finds all of it in order, and otherwise it
fails as the plain method does. -/
theorem Bulk.processed (w : Wiring ε σ) (ctx : Context) (b : Bulk) (xs : List String)
    (live : Live ε σ) (there : xs ≠ []) (headers : Met (Requirement.headers live.client.options)) :
    (∃ tried left, (tried ++ left).flatten = xs ∧
      (∀ front p back, tried ++ left = front ++ p :: back →
        1 ≤ p.length ∧ p.length ≤ 20 ∧ (back ≠ [] → p.length = 20)) ∧
      List.Forall₂ (fun a p => a.query = b.query p ∧ b.Holds a.request p)
        ((b.operation xs).course w ctx live).asked tried ∧
      Ends (b.plain w ctx) live tried left (b.call w ctx xs live)) ∧
    (xs.length ≤ 20 → b.call w ctx xs live = b.plain w ctx xs live) ∧
    ∀ ys, ys ≠ [] → 20 ∣ xs.length →
      b.call w ctx (xs ++ ys) live =
        (b.call w ctx xs).andThen (fun found => (b.call w ctx ys).map (found ++ ·)) live ∧
      ((b.operation (xs ++ ys)).course w ctx live).asked =
        ((b.operation xs).course w ctx live).asked ++
          match b.call w ctx xs live with
          | some (.ok _, after) => ((b.operation ys).course w ctx after).asked
          | _ => [] := by
  refine ⟨?_, fun short => ?_, fun ys there' even => ?_⟩
  · have one : ∀ p ∈ pieces 20 xs, ∀ live' : Live ε σ,
        live'.client.options = live.client.options →
        ∃ a, ((b.ask p).course w ctx live').asked = [a] ∧
          a.query = b.query p ∧ b.Holds a.request p := by
      intro p hp live' same
      obtain ⟨front, back, split⟩ := List.append_of_mem hp
      obtain ⟨some_there, short, -⟩ := pieces_lengths (by decide) split
      exact b.ask_asks some_there short (by rw [same]; exact headers)
    obtain ⟨tried, left, split, asked, ends⟩ := Plan.each_ends one live rfl
    simp only [ask_call] at ends
    rw [← plan_eq_each b there] at asked ends
    rw [plan_call] at ends
    rw [← operation_asked] at asked
    refine ⟨tried, left, ?_, ?_, asked, ends⟩
    · rw [← split, pieces_flatten]
    · intro front p back at_p
      exact pieces_lengths (by decide) (split.trans at_p)
  · exact congrFun (b.call_short there short) live
  · exact ⟨b.call_append there there' even live, b.asked_append there there' even live⟩

/-- A server that finds nothing. -/
def barren : Wiring Unit Unit where
  supplied _ := fun _ _ w => some (.ok ⟨200, "[]".toUTF8, .complete⟩, w)
  managed _ := .refuse
  random _ := 0
  connect _ := .ok ()

/-- What is asked of it for twenty-one addresses. -/
def barrenAsked : List Asked :=
  ((Bulk.balances.operation (.replicate 21 "1A")).course barren ⟨⟨[0]⟩, none⟩
    ⟨⟨{}, .standard, {}, {}, .supplied (), {}⟩, .start, ()⟩).asked

theorem Bulk.processed_barren :
    ∃ a c p q, barrenAsked = [a, c] ∧ p.length = 20 ∧ q.length = 1 ∧
      balances.Holds a.request p ∧ balances.Holds c.request q := by
  have agent : Carriable ({} : Options).userAgent := (isHeaderValue_iff _).mp (by decide +kernel)
  have headers : Met (Requirement.headers {}) := by
    simpa [Met, Requirement.headers] using agent
  have cut : pieces 20 (List.replicate 21 "1A") = [List.replicate 20 "1A", ["1A"]] := by
    rw [pieces_of_ne_nil (by decide) (by decide), pieces_of_length_le (by decide) (by decide)]
    rfl
  obtain ⟨a, c, two⟩ : ∃ a c, barrenAsked = [a, c] := by
    rw [barrenAsked, operation_asked, plan_eq_each _ (by decide), cut]
    exact ⟨_, _, rfl⟩
  obtain ⟨⟨tried, left, whole, sizes, asked, -⟩, -⟩ := Bulk.processed barren ⟨⟨[0]⟩, none⟩ .balances
    (.replicate 21 "1A") ⟨⟨{}, .standard, {}, {}, .supplied (), {}⟩, .start, ()⟩ (by decide) headers
  rw [← barrenAsked, two] at asked
  obtain ⟨p, _, ⟨-, holds⟩, rest, rfl⟩ := List.forall₂_cons_left_iff.mp asked
  obtain ⟨q, _, ⟨-, holds'⟩, done, rfl⟩ := List.forall₂_cons_left_iff.mp rest
  cases done
  have first := (sizes [] p (q :: left) rfl).2.2 (by simp)
  have second := (sizes [p] q left rfl).1
  have count := congrArg List.length whole
  simp only [List.cons_append, List.nil_append, List.flatten_cons, List.length_append,
    List.length_replicate] at count
  exact ⟨a, c, p, q, two, first, by omega, holds, holds'⟩

end ExplorerClient
