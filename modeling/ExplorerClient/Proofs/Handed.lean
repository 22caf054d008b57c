import ExplorerClient.Proofs.Plan

/-!
# What queries hand over

A query makes a request of a client, or is refused. It is refused when a precondition does not hold
or when no request can be made, and then reports an error of a few kinds only, which no executor has
a part in.

Results:
* `Client.request_ok`, `Client.request_buffered`: what a request is made of.
* `Query.guard_refusal`: the preconditions on the arguments of every query.
* `Query.handed_refusal`: what a query is refused with.
-/

namespace ExplorerClient

variable {ε : Type}

/-! ## Requests -/

/-- What an endpoint asks for. -/
def Query.inquiry (q : Query) : Inquiry := q.entry.endpoint.inquiry

/-- How the answer to a query is read. -/
def Query.reply (q : Query) : Reply q.entry.α := q.entry.endpoint.reply

/-- The address that a query asks at and the request made for it, unless the query is refused. -/
def Query.handed (q : Query) (c : Client ε) : Except Error (String × Request) := do
  let url ← q.inquiry.url c
  let request ← c.request q.inquiry.method url q.inquiry.body
  pure (url, request)

theorem Query.handed_congr (q : Query) {c d : Client ε} (same : c.options = d.options) :
    q.handed c = q.handed d := by
  simp only [handed, Inquiry.url, Client.request, Client.identity, same]

theorem Inquiry.url_ok {i : Inquiry} {c : Client ε} {url : String} (h : i.url c = .ok url) :
    url = Route.address c.options.chain c.options.network i.route.text := by
  obtain ⟨_, -, h⟩ := ok_of_bind h
  cases required : i.chain with
  | none =>
    simp only [required] at h
    cases h
    rfl
  | some chain =>
    simp only [required] at h
    obtain ⟨_, -, h⟩ := ok_of_bind h
    cases h
    rfl

/-- What a request of a client is made of. -/
theorem Client.request_ok {c : Client ε} {method : Method} {url : String} {body : Option String}
    {request : Request} (h : c.request method url body = .ok request) :
    request.method = method ∧ Url.parse url = .ok request.url ∧
      request.body = if method.sendsBody then body.map fun text => .buffered text.toUTF8
        else none := by
  obtain ⟨address, read, h⟩ := ok_of_bind h
  obtain ⟨headers, -, h⟩ := ok_of_bind h
  cases h
  refine ⟨rfl, ?_, rfl⟩
  cases parsed : Url.parse url with
  | error fault =>
    rw [parsed] at read
    cases read
  | ok u =>
    rw [parsed] at read
    cases read
    rfl

theorem Query.handed_ok {q : Query} {c : Client ε} {url : String} {request : Request}
    (h : q.handed c = .ok (url, request)) :
    q.inquiry.url c = .ok url ∧ c.request q.inquiry.method url q.inquiry.body = .ok request := by
  obtain ⟨_, asked, h⟩ := ok_of_bind h
  obtain ⟨_, made, h⟩ := ok_of_bind h
  cases h
  exact ⟨asked, made⟩

theorem Client.request_buffered {client : Client ε} {method : Method} {url : String}
    {body : Option String} {request : Request}
    (made : client.request method url body = .ok request) :
    ∀ bytes, request.body ≠ some (.stream bytes) := by
  intro bytes streamed
  obtain ⟨-, -, h⟩ := request_ok made
  rw [streamed] at h
  split at h
  · cases body <;> cases h
  · cases h

/-! ## Refusals -/

/-- Is this an error that a client reports without having asked for anything? -/
def Error.Refusal : Error → Prop
  | .missingRequest | .badRequest _ | .limitExceeded _ | .chainRequired _ | .invalidUrl _
  | .invalidHeader _ => True
  | _ => False

theorem Error.Refusal.kind_ne {e : Error} (h : e.Refusal) : e.kind ≠ .requestBody := by
  cases e <;> simp [Error.Refusal, Error.kind] at h ⊢

theorem Error.Refusal.ne_failed {e : Error} (h : e.Refusal) :
    ∀ status body, e ≠ .requestFailed status body := by
  rintro status body rfl
  exact h

theorem requireCount_refusal {what : Bounded} {most count : Nat} {e : Error}
    (h : requireCount what most count = .error e) : e.Refusal := by
  unfold requireCount at h
  split at h
  · cases h
    trivial
  · split at h <;> cases h
    trivial

theorem TransactionQuery.requireBatch_refusal {txs : List String} {payload : Nat} {e : Error}
    (h : requireBatch txs payload = .error e) : e.Refusal := by
  obtain h | ⟨_, -, h⟩ := error_of_bind h
  · exact requireCount_refusal h
  · by_cases large : (txs.any fun tx => maxTransactionSize < sizeOfHex tx) = true
    · rw [if_pos large] at h
      cases h
      trivial
    · rw [if_neg large] at h
      by_cases whole : maxBroadcastPayload < payload
      · rw [if_pos whole] at h
        cases h
        trivial
      · rw [if_neg whole] at h
        cases h

theorem TransactionQuery.requireText_refusal {tx : String} {e : Error}
    (h : requireText tx = .error e) : e.Refusal := by
  unfold requireText at h
  split at h <;> cases h
  trivial

theorem NetworkQuery.requireRange_refusal {first last : Int} {e : Error}
    (h : requireRange first last = .error e) : e.Refusal := by
  unfold requireRange at h
  split at h <;> cases h
  trivial

theorem Query.guard_refusal {q : Query} {e : Error} (h : q.inquiry.guard = .error e) :
    e.Refusal := by
  cases q with
  | address q =>
    cases q with
    | confirmedBalances _ | unconfirmedBalances _ | confirmedUnspents _ =>
      exact requireCount_refusal h
    | _ => cases h
  | script q =>
    cases q with
    | confirmedUnspents _ => exact requireCount_refusal h
    | _ => cases h
  | block q => cases q <;> cases h
  | network q =>
    cases q with
    | historicalRates _ _ => exact NetworkQuery.requireRange_refusal h
    | _ => cases h
  | token q => cases q <;> cases h
  | transaction q =>
    cases q with
    | details _ | statuses _ | spentOutputs _ => exact requireCount_refusal h
    | broadcast _ => exact TransactionQuery.requireText_refusal h
    | broadcastBatch _ _ => exact TransactionQuery.requireBatch_refusal h
    | _ => cases h

theorem Chain.require_refusal {required actual : Chain} {e : Error}
    (h : required.require actual = .error e) : e.Refusal := by
  unfold Chain.require at h
  split at h <;> cases h
  trivial

theorem Query.url_refusal {q : Query} {client : Client ε} {e : Error}
    (h : q.inquiry.url client = .error e) : e.Refusal := by
  obtain h | ⟨_, -, h⟩ := error_of_bind h
  · exact guard_refusal h
  · cases needed : q.inquiry.chain with
    | none =>
      rw [needed] at h
      cases h
    | some required =>
      rw [needed] at h
      obtain h | ⟨_, -, h⟩ := error_of_bind h
      · exact Chain.require_refusal h
      · cases h

theorem header_error {name value : String} {e : Error} (h : header name value = .error e) :
    e = .invalidHeader name := by
  unfold header at h
  split at h <;> cases h
  rfl

theorem Client.identity_error {c : Client ε} {e : Error} (h : c.identity = .error e) :
    ∃ name, e = .invalidHeader name := by
  obtain h | ⟨agent, -, h⟩ := error_of_bind h
  · exact ⟨_, header_error h⟩
  · cases keyed : c.options.apiKey with
    | none =>
      simp only [keyed] at h
      cases h
    | some key =>
      simp only [keyed] at h
      obtain h | ⟨_, -, h⟩ := error_of_bind h
      · exact ⟨_, header_error h⟩
      · cases h

theorem Client.request_refusal {client : Client ε} {method : Method} {url : String}
    {body : Option String} {e : Error} (h : client.request method url body = .error e) :
    e.Refusal := by
  obtain h | ⟨address, -, h⟩ := error_of_bind h
  · cases read : Url.parse url with
    | error fault =>
      rw [read] at h
      cases h
      trivial
    | ok u =>
      rw [read] at h
      cases h
  · obtain h | ⟨headers, -, h⟩ := error_of_bind h
    · obtain ⟨name, rfl⟩ := identity_error h
      trivial
    · cases h

theorem Query.handed_refusal {q : Query} {client : Client ε} {e : Error}
    (h : q.handed client = .error e) : e.Refusal := by
  obtain h | ⟨url, -, h⟩ := error_of_bind h
  · exact url_refusal h
  · obtain h | ⟨request, -, h⟩ := error_of_bind h
    · exact Client.request_refusal h
    · cases h

end ExplorerClient
