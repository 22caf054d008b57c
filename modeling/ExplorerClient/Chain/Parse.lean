import ExplorerClient.Error
import ExplorerClient.Text.Blank

/-!
# Reading chain and network names

A name is read after trimming, in any mixture of ASCII upper and lower case. A name that is not
known is reported as it was given. A pair of chain and network is checked against availability.

Results:
* `Chain.parse_name`, `Network.parse_name`: the name of a chain or network reads back.
* `requireAvailable_eq_ok_iff`: exactly the available pairs pass.
-/

namespace ExplorerClient

open Text

/-- The chain of a name, trimmed and in any ASCII case (`from_str`). -/
def Chain.parse (text : String) : Except Error Chain :=
  match Chain.ofName? (lowercase (trim text)) with
  | some chain => .ok chain
  | none => .error (.invalidChain text)

/-- The network of a name, trimmed and in any ASCII case (`from_str`). -/
def Network.parse (text : String) : Except Error Network :=
  match Network.ofName? (lowercase (trim text)) with
  | some network => .ok network
  | none => .error (.invalidNetwork text)

/-- Refuses a network that does not exist on the chain (`ensure_network_available`). -/
def requireAvailable (chain : Chain) (network : Network) : Except Error Unit :=
  if network.availableOn chain then .ok () else .error (.unsupportedNetwork chain network)

/-- Refuses a chain other than the required one (`require_chain`). -/
def Chain.require (required configured : Chain) : Except Error Unit :=
  if configured = required then .ok () else .error (.chainRequired required)

theorem Chain.parse_name (c : Chain) : Chain.parse c.name = .ok c := by
  have h : Chain.ofName? (lowercase (trim c.name)) = some c := by
    cases c <;> decide
  simp only [Chain.parse, h]

theorem Network.parse_name (n : Network) : Network.parse n.name = .ok n := by
  have h : Network.ofName? (lowercase (trim n.name)) = some n := by
    cases n <;> decide
  simp only [Network.parse, h]

theorem requireAvailable_eq_ok_iff {c : Chain} {n : Network} :
    requireAvailable c n = .ok () ↔ n.availableOn c = true := by
  unfold requireAvailable
  split <;> simp_all

end ExplorerClient
