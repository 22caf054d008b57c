import ExplorerClient.Proofs.Processed
import ExplorerClient.Proofs.Recorded
import ExplorerClient.Proofs.Restored

/-!
# What requests carry

A query that looks up many things, or that broadcasts, sends a JSON text. The text is an envelope
around just what the query was given: an object with a single member, or a plain array. Whatever
characters there are in what was given, reading the text gives the envelope again, with nothing
beside it; so different things are never sent as the same text.

Results:
* `Payload.fills`: the text of an envelope is read back as this envelope.
* `Payload.Fills.unique`: a text is that of one payload only.
* `Query.handed_carries`: what the request of a query carries.
* `Operation.payload_sent`: what the requests of any call carry.
-/

namespace ExplorerClient

open Json

variable {ε σ : Type}

/-! ## Payloads -/

/-- What a query sends, apart from the place that it is sent to. -/
inductive Payload where
  | addresses (addresses : List String)
  | scripts (scripts : List String)
  | txids (txids : List String)
  | utxos (utxos : List Outpoint)
  | transaction (tx : String)
  | batch (txs : List String)

/-- What a query sends, if it sends anything. The blanks around a transaction are not sent. -/
def Query.payload? : Query → Option Payload
  | .address (.confirmedBalances xs) | .address (.unconfirmedBalances xs)
  | .address (.confirmedUnspents xs) => some (.addresses xs)
  | .script (.confirmedUnspents xs) => some (.scripts xs)
  | .transaction (.details xs) | .transaction (.statuses xs) => some (.txids xs)
  | .transaction (.spentOutputs xs) => some (.utxos xs)
  | .transaction (.broadcast tx) => some (.transaction (Text.trim tx))
  | .transaction (.broadcastBatch txs _) => some (.batch txs)
  | _ => none

namespace Payload

/-- A reference to an output as a value. -/
def outpoint (o : Outpoint) : Value :=
  .object [("txid", .text o.txid), ("vout", .number (.int o.vout.toNat))]

/-- The value that a payload is sent as. -/
def envelope : Payload → Value
  | .addresses xs => .object [("addresses", .array (xs.map .text))]
  | .scripts xs => .object [("scripts", .array (xs.map .text))]
  | .txids xs => .object [("txids", .array (xs.map .text))]
  | .utxos xs => .object [("utxos", .array (xs.map outpoint))]
  | .transaction tx => .object [("txhex", .text tx)]
  | .batch txs => .array (txs.map .text)

theorem outpoint_injective {a b : Outpoint} (same : outpoint a = outpoint b) : a = b := by
  simp only [outpoint, Value.object.injEq, List.cons.injEq, Prod.mk.injEq, Value.text.injEq,
    Value.number.injEq, Number.int.injEq, Int.natCast_inj, true_and, and_true] at same
  obtain ⟨txid, vout⟩ := same
  cases a
  cases b
  rw [Outpoint.mk.injEq]
  exact ⟨txid, UInt32.toNat_inj.mp vout⟩

/-- Different payloads are sent as different values. -/
theorem envelope_injective {p q : Payload} (same : p.envelope = q.envelope) : p = q := by
  have texts : ∀ {xs ys : List String}, xs.map Value.text = ys.map .text → xs = ys :=
    fun h => (List.map_inj_right fun _ _ => Value.text.inj).mp h
  have outpoints : ∀ {xs ys : List Outpoint}, xs.map outpoint = ys.map outpoint → xs = ys :=
    fun h => (List.map_inj_right fun _ _ => outpoint_injective).mp h
  cases p <;> cases q <;> simp [envelope] at same ⊢
  case addresses.addresses | scripts.scripts | txids.txids | batch.batch => exact texts same
  case utxos.utxos => exact outpoints same
  case transaction.transaction => exact same

theorem envelope_whole (p : Payload) : p.envelope.Whole := by
  cases p with
  | addresses xs | scripts xs | txids xs =>
    simp only [envelope, Value.Whole, WholeMembers]
    exact ⟨wholeItems_texts xs, trivial⟩
  | utxos xs =>
    have each := Outpoint.law.exact_codec.wholeItems xs
    simp only [envelope, Value.Whole, WholeMembers]
    exact ⟨each, trivial⟩
  | transaction tx =>
    simp only [envelope, Value.Whole, WholeMembers]
    exact ⟨trivial, trivial⟩
  | batch txs =>
    simp only [envelope, Value.Whole]
    exact wholeItems_texts txs

theorem opensItems_outpoints (xs : List Outpoint) {depth : Nat} (deep : 0 < depth) :
    OpensItems (xs.map outpoint) depth := by
  induction xs with
  | nil =>
    rw [List.map_nil, OpensItems]
    trivial
  | cons x xs ih =>
    have first : (outpoint x).Opens depth := by
      simp only [outpoint, Value.Opens, OpensMembers]
      exact ⟨deep, by simp, trivial, trivial, trivial⟩
    rw [List.map_cons, OpensItems]
    exact ⟨first, ih⟩

theorem envelope_opens (p : Payload) : p.envelope.Opens Codec.maxDepth := by
  cases p with
  | addresses xs | scripts xs | txids xs =>
    simp only [envelope, Value.Opens, OpensMembers]
    exact ⟨by decide, by simp, ⟨by decide, opensItems_texts xs _⟩, trivial⟩
  | utxos xs =>
    simp only [envelope, Value.Opens, OpensMembers]
    exact ⟨by decide, by simp, ⟨by decide, opensItems_outpoints xs (by decide)⟩, trivial⟩
  | transaction tx =>
    simp only [envelope, Value.Opens, OpensMembers]
    exact ⟨by decide, by simp, trivial, trivial⟩
  | batch txs =>
    simp only [envelope, Value.Opens]
    exact ⟨by decide, opensItems_texts txs _⟩

/-! ## Texts of payloads -/

/-- The bytes are the UTF-8 of a JSON text that says just what the payload is. -/
structure Fills (p : Payload) (bytes : ByteArray) : Prop where
  valid : bytes.IsValidUTF8
  /-- In the tree of the text nothing has been passed over yet: a name that stands twice would
  stand in it twice. -/
  tree : read bytes.data.toList = (p.envelope.tree, true)
  value : decode Codec.any bytes.data.toList = .ok p.envelope

theorem fills (p : Payload) : p.Fills p.envelope.render.toUTF8 where
  valid := p.envelope.render.isValidUTF8
  tree := (says_render p.envelope p.envelope_whole).said.read
  value := decode_render p.envelope_whole p.envelope_opens

/-- A text is that of one payload only. -/
theorem Fills.unique {p q : Payload} {bytes : ByteArray} (h : p.Fills bytes)
    (h' : q.Fills bytes) : p = q := by
  have same := h.value.symm.trans h'.value
  exact envelope_injective (Except.ok.inj same)

/-- What is sent along with a request: nothing, or a payload. -/
def Carried : Option Payload → Option RequestBody → Prop
  | none, body => body = none
  | some p, body => ∃ bytes, body = some (.buffered bytes) ∧ p.Fills bytes

theorem Carried.unique {p q : Option Payload} {body : Option RequestBody} (h : Carried p body)
    (h' : Carried q body) : p = q := by
  cases p with
  | none =>
    cases q with
    | none => rfl
    | some q =>
      obtain ⟨bytes, there, -⟩ := h'
      exact absurd (h.symm.trans there) (by simp)
  | some p =>
    obtain ⟨bytes, rfl, fills⟩ := h
    cases q with
    | none => exact absurd h' (by simp [Carried])
    | some q =>
      obtain ⟨bytes', same, fills'⟩ := h'
      cases same
      exact congrArg some (fills.unique fills')

end Payload

/-! ## Requests -/

/-- What an inquiry sends is the text of the payload. -/
theorem Query.inquiry_payload (q : Query) :
    q.inquiry.body = q.payload?.map fun p => p.envelope.render := by
  cases q with
  | address q => cases q <;> rfl
  | script q => cases q <;> rfl
  | block q => cases q <;> rfl
  | network q => cases q <;> rfl
  | token q => cases q <;> rfl
  | transaction q => cases q <;> rfl

theorem Query.handed_carries {q : Query} {c : Client ε} {url : String} {request : Request}
    (handed : q.handed c = .ok (url, request)) : Payload.Carried q.payload? request.body := by
  obtain ⟨-, -, body⟩ := Client.request_ok (Query.handed_ok handed).2
  have sent : request.body = q.payload?.map fun p => .buffered p.envelope.render.toUTF8 := by
    rcases q.inquiry_body with nothing | sends
    · have none_there : q.payload? = none := by
        rw [q.inquiry_payload] at nothing
        exact Option.map_eq_none_iff.mp nothing
      rw [body, nothing, none_there, Option.map_none, ite_self]
      rfl
    · rw [body, if_pos sends, q.inquiry_payload, Option.map_map]
      rfl
  rw [sent]
  cases q.payload? with
  | none => rfl
  | some p => exact ⟨_, rfl, p.fills⟩

/-- What sends something does so on all chains. -/
theorem Query.requirements_payload {q : Query} {p : Payload} (sends : q.payload? = some p)
    (configured : Chain) : q.requirements configured = q.arguments := by
  have everywhere : q.chain? = none := by
    cases q with
    | address q => cases q <;> first | rfl | cases sends
    | script q => cases q <;> first | rfl | cases sends
    | block q => cases q <;> cases sends
    | network q => cases q <;> cases sends
    | token q => cases q <;> cases sends
    | transaction q => cases q <;> first | rfl | cases sends
  rw [requirements, everywhere]
  exact List.append_nil _

theorem Operation.query_asked (w : Wiring ε σ) (ctx : Context) (q : Query) (live : Live ε σ) :
    ((Operation.query q).course w ctx live).asked = (q.course w ctx live).asked :=
  congrArg Course.asked (Plan.map_course ..)

/-- The headers of a client that nothing was chosen for can be sent. -/
theorem Requirement.headers_standard : Met (Requirement.headers {}) := by
  have agent : Carriable ({} : Options).userAgent := (isHeaderValue_iff _).mp (by decide +kernel)
  simpa [Met, Requirement.headers] using agent

/-- Each request of a call carries the payload of its query: a JSON text that, read back, is the
envelope around just what the query was given, or no text if there is nothing to send. A query that
sends something and whose requirements are met makes one request. Requests with the same text have
the same payload, whoever makes them. The requests of a call are those that the log of a watched
wiring shows. -/
theorem Operation.payload_sent (w : Wiring ε σ) (ctx : Context) (op : Operation)
    (live : Live ε σ) :
    (∀ a ∈ (op.course w ctx live).asked, Payload.Carried a.query.payload? a.request.body) ∧
    (∀ q p, op = .query q → q.payload? = some p → Met q.arguments →
      Met (Requirement.headers live.client.options) →
      ∃ a bytes, (op.course w ctx live).asked = [a] ∧ a.query = q ∧
        a.request.body = some (.buffered bytes) ∧ p.Fills bytes) ∧
    (∀ (w' : Wiring ε σ) (ctx' : Context) (op' : Operation) (live' : Live ε σ),
      ∀ a ∈ (op.course w ctx live).asked, ∀ b ∈ (op'.course w' ctx' live').asked,
        a.request.body = b.request.body → a.query.payload? = b.query.payload?) ∧
    ∀ seen, ∃ new, op.Logged w ctx live seen new := by
  have carries : ∀ (w : Wiring ε σ) (ctx : Context) (op : Operation) (live : Live ε σ),
      ∀ a ∈ (op.course w ctx live).asked, Payload.Carried a.query.payload? a.request.body :=
    fun w ctx op live a there => Query.handed_carries (op.plan.asked_handed w ctx live a there)
  refine ⟨carries w ctx op live, ?_, ?_, op.logged w ctx live⟩
  · rintro q p rfl sends arguments headers
    rw [← Query.requirements_payload sends live.client.options.chain] at arguments
    obtain ⟨a, asked, same, handed⟩ := Query.course_asks w ctx arguments headers
    have carried := Query.handed_carries handed
    rw [sends] at carried
    obtain ⟨bytes, body, fills⟩ := carried
    exact ⟨a, bytes, (query_asked w ctx q live).trans asked, same, body, fills⟩
  · intro w' ctx' op' live' a asked b asked' same
    have carried := carries w ctx op live a asked
    rw [same] at carried
    exact carried.unique (carries w' ctx' op' live' b asked')

/-- Names that try to end their string, to add another name or to add a member; one with control
characters, one from beyond the first plane, and none at all. -/
def intruders : List String :=
  ["\x22,\x22other", "\x22],\x22txids\x22:[\x22", "\x5c\x22", "\x00\n\x1f\x7f", "😀", ""]

theorem Operation.payload_sent_intruders :
    ∃ a bytes, ((Operation.query (.address (.confirmedBalances intruders))).course barren
        ⟨⟨[0]⟩, none⟩ ⟨⟨{}, .standard, {}, {}, .supplied (), {}⟩, .start, ()⟩).asked = [a] ∧
      a.request.body = some (.buffered bytes) ∧ (Payload.addresses intruders).Fills bytes := by
  have arguments : Met (Query.address (.confirmedBalances intruders)).arguments :=
    Requirement.count_met (by decide) (by decide)
  obtain ⟨-, sent, -⟩ := Operation.payload_sent barren ⟨⟨[0]⟩, none⟩
    (.query (.address (.confirmedBalances intruders)))
    ⟨⟨{}, .standard, {}, {}, .supplied (), {}⟩, .start, ()⟩
  obtain ⟨a, bytes, asked, -, body, fills⟩ :=
    sent (.address (.confirmedBalances intruders)) (.addresses intruders) rfl rfl arguments
      Requirement.headers_standard
  exact ⟨a, bytes, asked, body, fills⟩

end ExplorerClient
