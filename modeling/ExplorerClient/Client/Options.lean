import ExplorerClient.Chain.Parse
import ExplorerClient.Http.Retry

/-!
# Options of a client

Everything about a client that its owner may choose, one setting at a time. Settings are taken in
order, so that a later one replaces an earlier one of its kind; only the outcome is checked.

Results:
* `Choices.ofSettings_append`: settings are taken one after the other.
-/

namespace ExplorerClient

/-- How connections are opened (`DialerConfig`). -/
structure Dialer where
  keepAlive : Duration := .ofSeconds 20
  /-- The time that opening a connection may take. -/
  timeout : Duration := .ofSeconds 5
  deriving DecidableEq

/-- How connections are kept (`TransportConfig`). -/
structure Pool where
  idleTimeout : Duration := .ofSeconds 20
  tlsHandshakeTimeout : Duration := .ofSeconds 5
  expectContinueTimeout : Duration := .ofSeconds 3
  /-- The number of idle connections that are kept. -/
  maxIdleConnections : Nat := 10
  deriving DecidableEq

/-- Which chain and network a client asks, as whom, and how patiently (`ClientOptions`). -/
structure Options where
  chain : Chain := .standard
  network : Network := .standard
  /-- The key that the service knows the client by. -/
  apiKey : Option String := none
  userAgent : String := "whatsonchain-rs:v0.1.0"
  /-- Requests in a second, or 0 for any number. Nothing enforces it. -/
  rateLimit : Nat := 3
  /-- The time that a single attempt may take. -/
  requestTimeout : Duration := .ofSeconds 30
  /-- The attempts made after the first one. -/
  retryCount : Nat := 2
  deriving DecidableEq

/-- The key of a text; the empty text is none. -/
def keyOfText (text : String) : Option String := if text = "" then none else some text

/-- One choice for a client (`ClientOption`); `ε` is what names an executor of the owner's. -/
inductive Setting (ε : Type) where
  | chain (value : Chain)
  | network (value : Network)
  | apiKey (value : String)
  | userAgent (value : String)
  | rateLimit (value : Nat)
  | requestTimeout (value : Duration)
  | retryCount (value : Nat)
  | backoff (value : Backoff)
  | dialer (value : Dialer)
  | pool (value : Pool)
  | executor (value : ε)

/-- Settings that no client refuses. The others are checked: a network must exist on the chain, and
a managed executor must be possible. -/
def Setting.isUnchecked {ε : Type} : Setting ε → Bool
  | .apiKey _ | .userAgent _ | .rateLimit _ | .executor _ => true
  | .chain _ | .network _ | .requestTimeout _ | .retryCount _ | .backoff _ | .dialer _
  | .pool _ => false

/-- All choices for a client together (`Settings`). -/
structure Choices (ε : Type) where
  options : Options := {}
  backoff : Backoff := .standard
  dialer : Dialer := {}
  pool : Pool := {}
  executor : Option ε := none

namespace Choices

variable {ε : Type}

/-- The choices with one more setting taken (`apply`). -/
def take (c : Choices ε) : Setting ε → Choices ε
  | .chain value => { c with options.chain := value }
  | .network value => { c with options.network := value }
  | .apiKey value => { c with options.apiKey := keyOfText value }
  | .userAgent value => { c with options.userAgent := value }
  | .rateLimit value => { c with options.rateLimit := value }
  | .requestTimeout value => { c with options.requestTimeout := value }
  | .retryCount value => { c with options.retryCount := value }
  | .backoff value => { c with backoff := value }
  | .dialer value => { c with dialer := value }
  | .pool value => { c with pool := value }
  | .executor value => { c with executor := some value }

/-- The choices that settings make, taken in order (`from_options`). -/
def ofSettings (settings : List (Setting ε)) : Choices ε := settings.foldl take {}

theorem ofSettings_append (xs ys : List (Setting ε)) :
    ofSettings (xs ++ ys) = ys.foldl take (ofSettings xs) :=
  List.foldl_append

end Choices

end ExplorerClient
