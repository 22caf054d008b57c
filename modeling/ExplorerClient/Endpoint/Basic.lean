import ExplorerClient.Client.Exchange
import ExplorerClient.Json.Record

/-!
# Endpoints

An endpoint is a description of one exchange: what has to hold before it, the route it goes to, the
text it sends, and how its answer is read. One function carries out all of them.

Results:
* `onMissing_404`, `onMissing_other`: only the status 404 says so too.
-/

namespace ExplorerClient

open Json

/-- A list that is too long, or empty (`ensure_bulk_size`). -/
def requireCount (what : Bounded) (most count : Nat) : Except Error Unit :=
  if count = 0 then .error .missingRequest
  else if most < count then .error (.limitExceeded what)
  else .ok ()

/-- How the answer of an endpoint is read. -/
inductive Reply (α : Type) where
  /-- The answer tells of a resource, which may be missing. -/
  | resource (resource : Resource) (decode : ByteArray → Except Fault α)
  /-- The answer tells what became of a broadcast. -/
  | broadcast (understood : ByteArray → α)
  /-- The answer is a text that is there in any case. -/
  | plain (understood : ByteArray → α)

namespace Reply

/-- The error of a refusal by an endpoint that tells of a resource (`not_found_on_404`). -/
def onMissing (r : Resource) : Error → Error
  | .requestFailed 404 body => .notFound r (some (.requestFailed 404 body))
  | e => e

/-- The error of a refusal by an endpoint that broadcasts (`broadcast_failure`). -/
def onRejected : Error → Error
  | .requestFailed status body => .broadcastFailed body (.requestFailed status body)
  | e => e

/-- A body that has to be there (`request_present`). -/
def present (r : Resource) (bytes : ByteArray) : Except Error ByteArray :=
  if bytes.isEmpty then .error (.notFound r none) else .ok bytes

/-- Reads an answer. -/
def interpret {α : Type} : Reply α → Except Error ByteArray → Except Error α
  | .resource r decode, answer => do
    let bytes ← answer.mapError (onMissing r)
    let bytes ← present r bytes
    (decode bytes).mapError .decode
  | .broadcast understood, answer => (answer.mapError onRejected).map understood
  | .plain understood, answer => answer.map understood

theorem onMissing_404 (r : Resource) (body : String) :
    onMissing r (.requestFailed 404 body) = .notFound r (some (.requestFailed 404 body)) := rfl

theorem onMissing_other (r : Resource) {status : Nat} (h : status ≠ 404) (body : String) :
    onMissing r (.requestFailed status body) = .requestFailed status body := by
  unfold onMissing
  split <;> simp_all

end Reply

/-- What an exchange asks for. -/
structure Inquiry where
  /-- What has to hold of the arguments. -/
  guard : Except Error Unit
  /-- The chain that the endpoint exists on, if it does not exist on all. -/
  chain : Option Chain
  method : Method
  route : Route
  /-- The text to send. -/
  body : Option String

namespace Inquiry

/-- Asks at a route without sending anything. -/
def get (path : List Route.Segment) (query : List (String × Route.Argument) := []) : Inquiry :=
  ⟨.ok (), none, .get, ⟨path, query⟩, none⟩

/-- Sends a text to a route. -/
def post (guard : Except Error Unit) (path : List Route.Segment) (body : String)
    (query : List (String × Route.Argument) := []) : Inquiry :=
  ⟨guard, none, .post, ⟨path, query⟩, some body⟩

/-- The same on one chain only. -/
def only (chain : Chain) (i : Inquiry) : Inquiry := { i with chain := some chain }

/-- The same if something holds of the arguments. -/
def guarded (guard : Except Error Unit) (i : Inquiry) : Inquiry := { i with guard }

/-- The address asked at by a client, if the preconditions hold (`build_chain_url`): first those on
the arguments, then the one on the chain. -/
def url {ε : Type} (i : Inquiry) (c : Client ε) : Except Error String := do
  i.guard
  match i.chain with
  | none => pure ()
  | some required => required.require c.options.chain
  pure (Route.address c.options.chain c.options.network i.route.text)

end Inquiry

/-- A description of one exchange. -/
structure Endpoint (α : Type) where
  inquiry : Inquiry
  reply : Reply α

namespace Endpoint

variable {ε σ α : Type}

/-- Carries out the exchange. -/
def call (e : Endpoint α) (w : Wiring ε σ) (ctx : Context) : Call ε σ α := fun live =>
  match e.inquiry.url live.client with
  | .error refusal => some (.error refusal, live)
  | .ok url =>
    match exchange w ctx e.inquiry.method url e.inquiry.body live with
    | none => none
    | some (answer, live) => some (e.reply.interpret answer, live)

end Endpoint

/-! ## Kinds of answers -/

/-- Bodies read as a JSON value, where `null` stands for the blank one (`decode_object`). -/
def decodeObject {α : Type} (c : Codec α) (blank : α) (bytes : ByteArray) : Except Fault α :=
  decode (c.orNull blank) bytes.data.toList

/-- Bodies read as a trimmed text that is a JSON value. -/
def decodeTrimmed {α : Type} (c : Codec α) (blank : α) (bytes : ByteArray) : Except Fault α :=
  decodeObject c blank (Text.trim (Text.ofBytes bytes)).toUTF8

/-- Bodies read as a trimmed text. -/
def trimmedText (bytes : ByteArray) : String := Text.trim (Text.ofBytes bytes)

/-- What can be shown of an answer. -/
inductive Shown where
  | json (value : Value)
  | bytes (value : ByteArray)

/-- An endpoint together with how its answers are shown. -/
structure Entry where
  {α : Type}
  endpoint : Endpoint α
  shown : α → Shown

namespace Entry

/-- An endpoint that answers with one value (`request_json`). -/
def object {α : Type} (c : Codec α) (blank : α) (r : Resource) (i : Inquiry) : Entry where
  endpoint := ⟨i, .resource r (decodeObject c blank)⟩
  shown value := .json (c.write value)

/-- An endpoint that answers with a record. -/
def record (σ : Type) [Record σ] (r : Resource) (i : Inquiry) : Entry :=
  object (Record.codec σ) Record.blank r i

/-- An endpoint that answers with an untyped value. -/
def value (r : Resource) (i : Inquiry) : Entry := object .any .null r i

/-- An endpoint that answers with a list (`request_json_list`). -/
def list {α : Type} (c : Codec α) (r : Resource) (i : Inquiry) : Entry :=
  object (.list c) [] r i

/-- An endpoint that answers with a list of records. -/
def records (σ : Type) [Record σ] (r : Resource) (i : Inquiry) : Entry := list (Record.codec σ) r i

/-- An endpoint that answers with one value between blanks of any kind. -/
def scalar {α : Type} (c : Codec α) (blank : α) (r : Resource) (i : Inquiry) : Entry where
  endpoint := ⟨i, .resource r (decodeTrimmed c blank)⟩
  shown value := .json (c.write value)

/-- An endpoint that answers with a text as it is (`request_text`). -/
def text (r : Resource) (i : Inquiry) : Entry where
  endpoint := ⟨i, .resource r fun bytes => .ok (Text.ofBytes bytes)⟩
  shown value := .json (.text value)

/-- An endpoint that answers with a text between blanks. -/
def trimmed (r : Resource) (i : Inquiry) : Entry where
  endpoint := ⟨i, .resource r fun bytes => .ok (trimmedText bytes)⟩
  shown value := .json (.text value)

/-- An endpoint that answers with bytes (`request_bytes`). -/
def bytes (r : Resource) (i : Inquiry) : Entry where
  endpoint := ⟨i, .resource r .ok⟩
  shown value := .bytes value

/-- An endpoint that answers with a text whatever it concerns. -/
def plain (reply : Reply String) (i : Inquiry) : Entry where
  endpoint := ⟨i, reply⟩
  shown value := .json (.text value)

end Entry

end ExplorerClient
