import ExplorerClient.Client.Basic
import ExplorerClient.Route.Sent
import ExplorerClient.Text.Blank

/-!
# One exchange

A client turns an address and a text to send into a request, has its executor carry it out, and
takes the body out of the response. Its last request is recorded when the executor has failed, with
a status of 0, or when the body of the response has been read or given up.

Results:
* `request_error_iff`: below the root only a header can keep a request from being made.
* `outcome_success`, `outcome_failure`: only a status from 200 to 299 gives the body.
-/

namespace ExplorerClient

/-- How the executors of clients act on a world. -/
structure Wiring (ε σ : Type) where
  /-- An executor that an owner supplied. -/
  supplied : ε → Executor σ
  /-- A managed executor without its retries. -/
  managed : Managed → Executor σ
  /-- The random numbers that a managed executor waits by. -/
  random : Nat → Nat
  /-- Whether a managed executor can be made. -/
  connect : Connect

/-- The executor in a slot (`executor`). A managed one retries if it is to retry at all. -/
def Wiring.executor {ε σ : Type} (w : Wiring ε σ) : Slot ε → Executor σ
  | .supplied e => w.supplied e
  | .managed config =>
    if config.retry.count = 0 then w.managed config
    else (w.managed config).retrying config.retry w.random

/-- A client and the world that it acts in. -/
structure Live (ε σ : Type) where
  client : Client ε
  world : World σ

/-- Something done with a client, which may fail, and may never come to an end. -/
abbrev Call (ε σ α : Type) := Live ε σ → Option (Except Error α × Live ε σ)

/-! ## Requests -/

/-- The header that carries the key (`API_KEY_HEADER`). -/
def apiKeyHeader : String := "woc-api-key"

/-- Can a header carry the value? Control characters other than the tab are not allowed. -/
def isHeaderValue (value : String) : Bool :=
  value.toList.all fun c => c == '\t' || (0x20 ≤ c.toNat && c.toNat != 0x7f)

/-- A header with its value, if it can carry it. -/
def header (name value : String) : Except Error (String × String) :=
  if isHeaderValue value then .ok (name, value) else .error (.invalidHeader name)

namespace Client

variable {ε : Type}

/-- The headers that say who asks. -/
def identity (c : Client ε) : Except Error (List (String × String)) := do
  let agent ← header "user-agent" c.options.userAgent
  match c.options.apiKey with
  | none => pure [agent]
  | some key =>
    let key ← header apiKeyHeader key
    pure [agent, key]

/-- A request of the client. -/
def request (c : Client ε) (method : Method) (url : String) (body : Option String) :
    Except Error Request := do
  let address ← (Url.parse url).mapError fun fault => .invalidUrl (url ++ ": " ++ fault.message)
  let identity ← c.identity
  let sends := method.sendsBody
  pure {
    method
    url := address
    headers := if sends then identity ++ [("content-type", "application/json")] else identity
    body := if sends then body.map fun text => .buffered text.toUTF8 else none }

theorem request_error_iff {c : Client ε} {method : Method} {text : String} {body : Option String}
    {e : Error} :
    c.request method (Route.root ++ text) body = .error e ↔ c.identity = .error e := by
  rw [request, Route.parse_root]
  cases c.identity with
  | error f => constructor <;> intro h <;> cases h <;> rfl
  | ok headers => constructor <;> intro h <;> cases h

/-- The client with another last request (`record_last_request`). -/
def record (c : Client ε) (method : Method) (url : String) (body : Option String)
    (status : Nat) : Client ε :=
  { c with last := ⟨method.name, url, body.getD "", status⟩ }

end Client

/-! ## Responses -/

/-- The number of characters of a body that an error carries (`ERROR_BODY_PREFIX_CHARS`). -/
def errorBodyLength : Nat := 200

/-- The start of a body that an error carries (`body_prefix`). -/
def bodyStart (bytes : ByteArray) : String :=
  String.ofList ((Text.trim (Text.ofBytes bytes)).toList.take errorBodyLength)

/-- What a response with its body read means. -/
def Response.outcome (r : Response) (bytes : ByteArray) : Except Error ByteArray :=
  if r.isSuccess then .ok bytes else .error (.requestFailed r.status (bodyStart bytes))

theorem Response.outcome_success {r : Response} (h : r.isSuccess = true) (bytes : ByteArray) :
    r.outcome bytes = .ok bytes := by
  simp [outcome, h]

theorem Response.outcome_failure {r : Response} (h : r.isSuccess = false) (bytes : ByteArray) :
    r.outcome bytes = .error (.requestFailed r.status (bodyStart bytes)) := by
  simp [outcome, h]

/-! ## Exchanges -/

/-- What an exchange does. -/
structure Exchange (ε σ : Type) where
  /-- The request handed to the executor and what the executor answered, if it ever did. Nothing is
  handed over where no request can be made. -/
  handed : Option (Request × Option (Except Error Response))
  /-- The body of the response, if the exchange comes to an end. -/
  answer : Option (Except Error ByteArray)
  /-- The client and the world at the end, or where nothing happens any more. -/
  live : Live ε σ

/-- Asks for an address (`request`). -/
def Exchange.run {ε σ : Type} (w : Wiring ε σ) (ctx : Context) (method : Method) (url : String)
    (body : Option String) (live : Live ε σ) : Exchange ε σ :=
  match live.client.request method url body with
  | .error e => ⟨none, some (.error e), live⟩
  | .ok request =>
    match w.executor live.client.slot ctx request live.world with
    | none => ⟨some (request, none), none, live⟩
    | some (.error e, world) =>
      ⟨some (request, some (.error e)), some (.error e),
        ⟨live.client.record method url body 0, world⟩⟩
    | some (.ok response, world) =>
      match response.readBody ctx world.time with
      -- The record is written once the body is there, so a body without an end leaves none.
      | none => ⟨some (request, some (.ok response)), none, ⟨live.client, world⟩⟩
      | some (bytes, time) =>
        ⟨some (request, some (.ok response)), some (bytes.bind response.outcome),
          ⟨live.client.record method url body response.status, { world with time }⟩⟩

/-- Asks for an address and gives the body of the response. -/
def exchange {ε σ : Type} (w : Wiring ε σ) (ctx : Context) (method : Method) (url : String)
    (body : Option String) : Call ε σ ByteArray := fun live =>
  let done := Exchange.run w ctx method url body live
  done.answer.map (·, done.live)

end ExplorerClient
