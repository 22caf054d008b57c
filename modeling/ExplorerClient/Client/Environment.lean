import ExplorerClient.Client.Basic
import ExplorerClient.Text.Utf8

/-!
# Settings from the environment

Chain, network and key of a client may be given in the environment. A variable that is unset, blank
or not UTF-8 gives nothing; the others are trimmed.
-/

namespace ExplorerClient

/-- The bytes of the variables that are set. -/
structure Environment where
  chain : Option ByteArray := none
  network : Option ByteArray := none
  apiKey : Option ByteArray := none

namespace Environment

/-- The trimmed text of a variable, unless that is nothing (`non_empty_env`). -/
def text? (bytes? : Option ByteArray) : Option String := do
  let bytes ← bytes?
  let text ← String.fromUTF8? bytes
  let trimmed := Text.trim text
  if trimmed = "" then none else some trimmed

/-- One setting for a variable that gives something. -/
def setting? {ε α : Type} (bytes? : Option ByteArray) (parse : String → Except Error α)
    (make : α → Setting ε) : Except Error (List (Setting ε)) :=
  match text? bytes? with
  | none => .ok []
  | some text => (parse text).map fun value => [make value]

/-- The settings that the environment gives: those of chain, network and key, in this order. -/
def settings {ε : Type} (env : Environment) : Except Error (List (Setting ε)) := do
  let chain ← setting? env.chain Chain.parse .chain
  let network ← setting? env.network Network.parse .network
  let apiKey ← setting? env.apiKey .ok .apiKey
  pure (chain ++ network ++ apiKey)

end Environment

/-- The client of the settings that the environment gives (`from_env`). -/
def Client.ofEnvironment {ε : Type} (connect : Connect) (env : Environment) :
    Except Error (Client ε) := do
  let settings ← env.settings
  Client.new connect settings

end ExplorerClient
