import ExplorerClient.Duration
import ExplorerClient.Text.Blank
import ExplorerClient.Text.Utf8
import ExplorerClient.Url

/-!
# Requests and responses

A request has a body only if something is to be sent, which is not the same as sending nothing. Its
body is either buffered or a stream, and only a buffered body can be sent more than once. The body
of a response need not be all there: it may break off, or never end.

Results:
* `replay?_eq_some`: a request that can be sent again is sent again unchanged.
* `replay?_stream`: a stream cannot be sent again.
-/

namespace ExplorerClient

/-- The method of a request. -/
inductive Method where
  | get
  | post
  | put
  | other (name : String)
  deriving DecidableEq

namespace Method

/-- The name of a method. -/
def name : Method → String
  | .get => "GET"
  | .post => "POST"
  | .put => "PUT"
  | .other name => name

/-- The method of a name. -/
def ofName (name : String) : Method :=
  if name = "GET" then .get
  else if name = "POST" then .post
  else if name = "PUT" then .put
  else .other name

/-- Do requests with this method carry a body? -/
def sendsBody : Method → Bool
  | .post | .put => true
  | _ => false

end Method

/-- A version of the protocol. -/
inductive HttpVersion where
  | http10
  | http11
  | http2
  deriving DecidableEq

/-- The body of a request. -/
inductive RequestBody where
  /-- Bytes that are all there before the request is sent. -/
  | buffered (bytes : ByteArray)
  /-- Bytes that come while the request is sent. -/
  | stream (bytes : ByteArray)

/-- The headers of a request, with their names in small letters. -/
def namedHeaders (given : List (String × String)) : List (String × String) :=
  given.map fun (name, value) => (Text.lowercase name, value)

/-- A request. -/
structure Request where
  method : Method
  url : Url
  /-- Names, in small letters, with values; a name may occur more than once. -/
  headers : List (String × String)
  body : Option RequestBody := none
  /-- The time the request may take, if it has a limit of its own. -/
  timeout : Option Duration := none
  version : HttpVersion := .http11

/-- The parts of a request that can be sent again (`ReplayableRequest`). -/
structure Replay where
  method : Method
  url : Url
  headers : List (String × String)
  body : Option ByteArray
  timeout : Option Duration
  version : HttpVersion

namespace Request

/-- The parts that are sent again and again, unless the body is a stream (`drain`). -/
def replay? (r : Request) : Option Replay :=
  match r.body with
  | none => some ⟨r.method, r.url, r.headers, none, r.timeout, r.version⟩
  | some (.buffered bytes) => some ⟨r.method, r.url, r.headers, some bytes, r.timeout, r.version⟩
  | some (.stream _) => none

end Request

/-- A request made from the parts kept of one (`build`). -/
def Replay.request (r : Replay) : Request where
  method := r.method
  url := r.url
  headers := r.headers
  body := r.body.map .buffered
  timeout := r.timeout
  version := r.version

theorem Request.replay?_eq_some {r : Request} {parts : Replay} (h : r.replay? = some parts) :
    parts.request = r := by
  obtain ⟨method, url, headers, body, timeout, version⟩ := r
  unfold Request.replay? at h
  split at h
  · rename_i hb
    simp only [Option.some.injEq] at h
    subst h
    simp_all [Replay.request]
  · rename_i bytes hb
    simp only [Option.some.injEq] at h
    subst h
    simp_all [Replay.request]
  · simp at h

theorem Request.replay?_stream {r : Request} {bytes : ByteArray}
    (h : r.body = some (.stream bytes)) : r.replay? = none := by
  simp [Request.replay?, h]

/-- How the body of a response ends. -/
inductive BodyEnd where
  /-- It is all there. -/
  | complete
  /-- It breaks off. -/
  | broken
  /-- It never ends. -/
  | pending
  deriving DecidableEq

/-- A response. -/
structure Response where
  status : Nat
  body : ByteArray
  bodyEnd : BodyEnd := .complete

/-- Does the status say that the request was carried out? -/
def Response.isSuccess (r : Response) : Bool := 200 ≤ r.status && r.status < 300

end ExplorerClient
