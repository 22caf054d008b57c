import ExplorerClient.Client.Options
import ExplorerClient.Route

/-!
# Clients

A client holds its options, the executor its requests go through, and a record of the last request.
The executor is either one that its owner supplied, or a managed one that is made from the options;
every change to the options that a managed executor is made from makes a new one. Once an executor
has been supplied, it stays, whatever else changes.
-/

namespace ExplorerClient

/-- What a managed executor is made from (`ManagedConfig`). -/
structure Managed where
  requestTimeout : Duration
  retry : RetryPolicy
  dialer : Dialer
  pool : Pool
  deriving DecidableEq

/-- The executor that the requests of a client go through (`ExecutorSlot`). -/
inductive Slot (ε : Type) where
  | supplied (executor : ε)
  | managed (config : Managed)
  deriving DecidableEq

/-- How often a managed executor retries, if it does at all (`retry_layer`). -/
def Slot.retryLayer {ε : Type} : Slot ε → Option Nat
  | .supplied _ => none
  | .managed config => if config.retry.count = 0 then none else some config.retry.count

/-- Has the owner supplied the executor (`uses_custom_http_client`)? -/
def Slot.isSupplied {ε : Type} : Slot ε → Bool
  | .supplied _ => true
  | .managed _ => false

/-- The last request that reached an executor: before there is one, all is empty. -/
structure LastRequest where
  method : String := ""
  url : String := ""
  postData : String := ""
  /-- The status of the response, or 0 if there was none. -/
  status : Nat := 0
  deriving DecidableEq

/-- A client of the service. -/
structure Client (ε : Type) where
  options : Options
  backoff : Backoff
  dialer : Dialer
  pool : Pool
  slot : Slot ε
  last : LastRequest := {}
  deriving DecidableEq

/-- Whether a managed executor can be made, and why not. -/
abbrev Connect := Managed → Except Error Unit

namespace Client

variable {ε : Type}

/-- Makes a managed executor (`build_managed_executor`). -/
def manage (connect : Connect) (config : Managed) : Except Error (Slot ε) := do
  connect config
  pure (.managed config)

/-- What a managed executor of this client is made from. -/
def config (c : Client ε) : Managed where
  requestTimeout := c.options.requestTimeout
  retry := ⟨c.backoff, c.options.retryCount⟩
  dialer := c.dialer
  pool := c.pool

/-- A client of the given choices (`from_settings`). -/
def ofChoices (connect : Connect) (choices : Choices ε) : Except Error (Client ε) := do
  requireAvailable choices.options.chain choices.options.network
  let slot ← match choices.executor with
    | some executor => pure (.supplied executor)
    | none => manage connect {
        requestTimeout := choices.options.requestTimeout
        retry := ⟨choices.backoff, choices.options.retryCount⟩
        dialer := choices.dialer
        pool := choices.pool }
  pure {
    options := choices.options
    backoff := choices.backoff
    dialer := choices.dialer
    pool := choices.pool
    slot }

/-- A client of settings taken in order. -/
def new (connect : Connect) (settings : List (Setting ε)) : Except Error (Client ε) :=
  ofChoices connect (.ofSettings settings)

/-! ## Changing settings -/

/-- Changes what a managed executor is made from. Unless the executor is supplied a new one is made,
and if that fails nothing changes. -/
def reconfigure (connect : Connect) (c : Client ε) (update : Managed → Managed) :
    Except Error (Client ε) := do
  let config := update c.config
  let slot ← match c.slot with
    | .supplied executor => pure (.supplied executor)
    | .managed _ => manage connect config
  pure { c with
    options.requestTimeout := config.requestTimeout
    options.retryCount := config.retry.count
    backoff := config.retry.backoff
    dialer := config.dialer
    pool := config.pool
    slot }

/-- Changes chain and network together (`set_chain_and_network`). -/
def setChainAndNetwork (c : Client ε) (chain : Chain) (network : Network) :
    Except Error (Client ε) := do
  requireAvailable chain network
  pure { c with options.chain := chain, options.network := network }

/-- Changes one setting: `set_chain`, `set_network`, `set_api_key`, `set_user_agent`,
`set_rate_limit`, `set_request_timeout`, `set_request_retry_count`, `set_backoff`, `set_dialer`,
`set_transport`, `set_http_client`. -/
def set (connect : Connect) (c : Client ε) : Setting ε → Except Error (Client ε)
  | .chain value => c.setChainAndNetwork value c.options.network
  | .network value => c.setChainAndNetwork c.options.chain value
  | .apiKey value => pure { c with options.apiKey := keyOfText value }
  | .userAgent value => pure { c with options.userAgent := value }
  | .rateLimit value => pure { c with options.rateLimit := value }
  | .requestTimeout value => reconfigure connect c fun m => { m with requestTimeout := value }
  | .retryCount value => reconfigure connect c fun m => { m with retry.count := value }
  | .backoff value => reconfigure connect c fun m => { m with retry.backoff := value }
  | .dialer value => reconfigure connect c fun m => { m with dialer := value }
  | .pool value => reconfigure connect c fun m => { m with pool := value }
  | .executor value => pure { c with slot := .supplied value }

/-- The address of a path that a template and its arguments make (`build_url`). -/
def buildUrl (c : Client ε) (template : String) (args : List Route.Argument) :
    Except Error String := do
  let path ← Route.expand template args
  pure (Route.address c.options.chain c.options.network path)

end Client

end ExplorerClient
