import ExplorerClient.Binary64.Decimal
import ExplorerClient.Client.Basic
import ExplorerClient.Text.Quoted

/-!
# Diagnostic texts

A diagnostic text shows a value with the names of its fields. Nothing in it reveals a key.
-/

namespace ExplorerClient

/-- Names with values in braces behind a title. -/
def braced (title : String) (fields : List (String × String)) : String :=
  title ++ " \x7b " ++ String.intercalate ", " (fields.map fun (name, text) => name ++ ": " ++ text)
    ++ " \x7d"

/-- A value in parentheses behind a title. -/
def enclosed (title text : String) : String := title ++ "(" ++ text ++ ")"

/-- What is shown instead of a key. -/
def redacted : String := Text.quoted "<redacted>"

/-- A value that may be missing. -/
def optional : Option String → String
  | none => "None"
  | some text => enclosed "Some" text

/-- A truth value. -/
def truth (value : Bool) : String := if value then "true" else "false"

/-- The diagnostic text of a policy for waits. -/
def Backoff.summary (b : Backoff) : String :=
  braced "Backoff" [("initial", b.initial.text), ("max", b.max.text), ("factor", b.factor.text),
    ("max_jitter", b.maxJitter.text)]

/-- The diagnostic text of how connections are opened. -/
def Dialer.summary (d : Dialer) : String :=
  braced "DialerConfig" [("keep_alive", d.keepAlive.text), ("timeout", d.timeout.text)]

/-- The diagnostic text of how connections are kept. -/
def Pool.summary (p : Pool) : String :=
  braced "TransportConfig" [("idle_timeout", p.idleTimeout.text),
    ("tls_handshake_timeout", p.tlsHandshakeTimeout.text),
    ("expect_continue_timeout", p.expectContinueTimeout.text),
    ("max_idle_connections", Nat.repr p.maxIdleConnections)]

/-- The diagnostic text of options. -/
def Options.summary (o : Options) : String :=
  braced "ClientOptions" [("chain", o.chain.label), ("network", o.network.label),
    ("api_key", optional (o.apiKey.map fun _ => redacted)),
    ("user_agent", Text.quoted o.userAgent), ("rate_limit", Nat.repr o.rateLimit),
    ("request_timeout", o.requestTimeout.text), ("retry_count", Nat.repr o.retryCount)]

/-- The diagnostic text of a setting. -/
def Setting.summary {ε : Type} : Setting ε → String
  | .chain value => enclosed "Chain" value.label
  | .network value => enclosed "Network" value.label
  | .apiKey _ => enclosed "ApiKey" redacted
  | .userAgent value => enclosed "UserAgent" (Text.quoted value)
  | .rateLimit value => enclosed "RateLimit" (Nat.repr value)
  | .requestTimeout value => enclosed "RequestTimeout" value.text
  | .retryCount value => enclosed "RequestRetryCount" (Nat.repr value)
  | .backoff value => enclosed "Backoff" value.summary
  | .dialer value => enclosed "Dialer" value.summary
  | .pool value => enclosed "Transport" value.summary
  | .executor _ => "HttpClient(..)"

/-- The diagnostic text of an executor's slot. -/
def Slot.summary {ε : Type} (s : Slot ε) : String :=
  "ExecutorSlot \x7b caller_supplied: " ++ truth s.isSupplied ++ ", retry_layer: " ++
    optional (s.retryLayer.map Nat.repr) ++ ", .. \x7d"

/-- The diagnostic text of a client. -/
def Client.summary {ε : Type} (c : Client ε) : String :=
  braced "WhatsOnChainClient" [("options", c.options.summary), ("backoff", c.backoff.summary),
    ("dialer", c.dialer.summary), ("transport", c.pool.summary), ("executor", c.slot.summary)]

end ExplorerClient
