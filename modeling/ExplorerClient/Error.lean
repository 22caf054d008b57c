import ExplorerClient.Chain
import ExplorerClient.Json.Fault

/-!
# Errors

An error says why a call gave no answer. Two of its forms wrap another error: the absence of a
resource may come from a refused request, and a failed broadcast always does. Callers tell errors
apart by their kinds, and ask for kinds anywhere in the chain of wrapped errors.

Results:
* `is_iff_mem_chain`: an error has a kind exactly when some error of its chain has it.
-/

namespace ExplorerClient

/-- The families of things the service may know nothing of. -/
inductive Resource where
  | address
  | block
  | transaction
  | script
  | chainInfo
  | chainTips
  | exchangeRate
  | mempoolInfo
  | headers
  | peerInfo
  | token
  | stats
  deriving DecidableEq

namespace Resource

/-- Every resource. -/
def all : List Resource :=
  [.address, .block, .transaction, .script, .chainInfo, .chainTips, .exchangeRate, .mempoolInfo,
    .headers, .peerInfo, .token, .stats]

/-- The name of a resource in messages. -/
def name : Resource → String
  | .address => "address"
  | .block => "block"
  | .transaction => "transaction"
  | .script => "script"
  | .chainInfo => "chain info"
  | .chainTips => "chain tips"
  | .exchangeRate => "exchange rate"
  | .mempoolInfo => "mempool info"
  | .headers => "headers"
  | .peerInfo => "peer info"
  | .token => "token"
  | .stats => "stats"

end Resource

/-- The lists and texts whose size a call bounds. -/
inductive Bounded where
  | addresses
  | scripts
  | transactions
  | utxos
  | payloadSize
  | transactionSize
  deriving DecidableEq

/-- What an error is, leaving aside what it wraps. -/
inductive ErrorKind where
  | missingRequest
  | badRequest
  | limitExceeded (what : Bounded)
  | chainRequired (chain : Chain)
  | notFound (resource : Resource)
  | requestFailed
  | broadcastFailed
  | transport
  | decode
  | canceled
  | deadlineExceeded
  | invalidChain
  | invalidNetwork
  | unsupportedNetwork
  | invalidUrl
  | invalidHeader
  | requestBody
  deriving DecidableEq

/-- Every kind of error, in the order in which reports list them. -/
def ErrorKind.all : List ErrorKind :=
  [.missingRequest, .badRequest, .limitExceeded .addresses, .limitExceeded .scripts,
    .limitExceeded .transactions, .limitExceeded .utxos, .limitExceeded .payloadSize,
    .limitExceeded .transactionSize, .chainRequired .bsv, .chainRequired .btc] ++
  Resource.all.map .notFound ++
  [.requestFailed, .broadcastFailed, .transport, .decode, .canceled, .deadlineExceeded,
    .invalidChain, .invalidNetwork, .unsupportedNetwork, .invalidUrl, .invalidHeader,
    .requestBody]

/-- Why a call gave no answer. -/
inductive Error where
  /-- A required input is empty. -/
  | missingRequest
  /-- An input is refused before anything is sent. -/
  | badRequest (reason : String)
  /-- An input is larger than the service accepts. -/
  | limitExceeded (what : Bounded)
  /-- The endpoint exists on another chain only. -/
  | chainRequired (chain : Chain)
  /-- The service knows no such thing; `source` is the refusal that said so, if one did. -/
  | notFound (resource : Resource) (source : Option Error)
  /-- The service answered with a status other than success; `body` is the start of its text. -/
  | requestFailed (status : Nat) (body : String)
  /-- A transaction was not accepted; `source` is the refusal that said so. -/
  | broadcastFailed (body : String) (source : Error)
  /-- The exchange itself failed, possibly with a status. -/
  | transport (status : Option Nat)
  /-- The body of the answer is not the JSON expected. -/
  | decode (fault : Json.Fault)
  /-- The context of the call was cancelled. -/
  | canceled
  /-- The context of the call reached its deadline. -/
  | deadlineExceeded
  /-- No chain has this name. -/
  | invalidChain (name : String)
  /-- No network has this name. -/
  | invalidNetwork (name : String)
  /-- The network does not exist on the chain. -/
  | unsupportedNetwork (chain : Chain) (network : Network)
  /-- The address of a request cannot be read. -/
  | invalidUrl (reason : String)
  /-- A header cannot carry the value configured for it. -/
  | invalidHeader (header : String)
  /-- The body of a request cannot be sent a second time. -/
  | requestBody (reason : String)

namespace Error

/-- What the error is, leaving aside what it wraps. -/
def kind : Error → ErrorKind
  | .missingRequest => .missingRequest
  | .badRequest _ => .badRequest
  | .limitExceeded what => .limitExceeded what
  | .chainRequired chain => .chainRequired chain
  | .notFound resource _ => .notFound resource
  | .requestFailed _ _ => .requestFailed
  | .broadcastFailed _ _ => .broadcastFailed
  | .transport _ => .transport
  | .decode _ => .decode
  | .canceled => .canceled
  | .deadlineExceeded => .deadlineExceeded
  | .invalidChain _ => .invalidChain
  | .invalidNetwork _ => .invalidNetwork
  | .unsupportedNetwork _ _ => .unsupportedNetwork
  | .invalidUrl _ => .invalidUrl
  | .invalidHeader _ => .invalidHeader
  | .requestBody _ => .requestBody

/-- Is `k` the kind of this error or of one that it wraps? -/
def is (e : Error) (k : ErrorKind) : Bool :=
  e.kind == k ||
    match e with
    | .notFound _ (some source) => source.is k
    | .broadcastFailed _ source => source.is k
    | _ => false

/-- The status carried by this error or by one that it wraps. -/
def status : Error → Option Nat
  | .requestFailed status _ => some status
  | .notFound _ (some source) => source.status
  | .broadcastFailed _ source => source.status
  | .transport status => status
  | _ => none

/-- The error, the error it wraps, and so on inward (`source`). -/
def chain : Error → List Error
  | .notFound resource (some source) => .notFound resource (some source) :: source.chain
  | .broadcastFailed body source => .broadcastFailed body source :: source.chain
  | e => [e]

/-- Does the error say that the context of the call ended (`is_context`)? -/
def isContext : Error → Bool
  | .canceled | .deadlineExceeded => true
  | _ => false

/-- The message that an exceeded bound is reported with. -/
def boundedMessage : Bounded → String
  | .addresses => "max limit of addresses exceeded"
  | .scripts => "max limit of scripts exceeded"
  | .transactions => "max limit of transactions exceeded"
  | .utxos => "max limit of utxos exceeded"
  | .payloadSize => "max overall payload size exceeded"
  | .transactionSize => "max transaction size exceeded"

/-- The message for people. Failed exchanges and unreadable bodies have no wording of their own. -/
def message? : Error → Option String
  | .missingRequest => some "missing request"
  | .badRequest reason => some ("bad request: " ++ reason)
  | .limitExceeded what => some (boundedMessage what)
  | .chainRequired chain => some ("this endpoint requires the " ++ chain.name ++ " chain")
  | .notFound resource _ => some (resource.name ++ " not found")
  | .requestFailed status body =>
    some ("request failed with status " ++ Nat.repr status ++ ": " ++ body)
  | .broadcastFailed body _ => some ("broadcast failed: " ++ body)
  | .transport _ => none
  | .decode _ => none
  | .canceled => some "context canceled"
  | .deadlineExceeded => some "context deadline exceeded"
  | .invalidChain name => some ("invalid chain '" ++ name ++ "'")
  | .invalidNetwork name => some ("invalid network '" ++ name ++ "'")
  | .unsupportedNetwork chain network =>
    some ("network '" ++ network.name ++ "' is not available on chain '" ++ chain.name ++ "'")
  | .invalidUrl reason => some ("invalid url: " ++ reason)
  | .invalidHeader header => some ("invalid value for header '" ++ header ++ "'")
  | .requestBody reason => some ("request body cannot be replayed: " ++ reason)

/-- The messages of what lies below the error, outermost first. An unreadable body has the report
of its reader, which has no wording, below it. -/
def causes (e : Error) : List (Option String) :=
  e.chain.tail.map message? ++
    match e.chain.getLast? with
    | some (.decode _) => [none]
    | _ => []

theorem is_iff_mem_chain (e : Error) (k : ErrorKind) :
    e.is k = true ↔ ∃ c ∈ e.chain, c.kind = k := by
  fun_induction chain e with
  | case1 resource source ih =>
    unfold is
    simp [ih]
  | case2 body source ih =>
    unfold is
    simp [ih]
  | case3 e h1 h2 =>
    unfold is
    split <;> simp_all

end Error

end ExplorerClient
