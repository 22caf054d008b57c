/-!
# Chains and networks

The service answers for two chains, each with its own networks. The scaling test network exists
on one chain only, so a pair of chain and network may be unavailable.

Results:
* `Chain.ofName?_name`, `Network.ofName?_name`: the name of a chain or network reads back.
* `Network.availableOn_iff`: the one unavailable pair.
-/

namespace ExplorerClient

/-- A chain the service answers for. -/
inductive Chain where
  | bsv
  | btc
  deriving DecidableEq

/-- A network of a chain: the main one, the test one, or the scaling test one. -/
inductive Network where
  | main
  | test
  | stn
  deriving DecidableEq

namespace Chain

/-- Every chain. -/
def all : List Chain := [.bsv, .btc]

/-- The chain of a client that chooses none. -/
def standard : Chain := .bsv

/-- The name of a chain in addresses and messages. -/
def name : Chain → String
  | .bsv => "bsv"
  | .btc => "btc"

/-- The name of a chain in diagnostic texts. -/
def label : Chain → String
  | .bsv => "Bsv"
  | .btc => "Btc"

/-- The chain of a name written exactly so. -/
def ofName? (s : String) : Option Chain :=
  all.find? (·.name == s)

theorem ofName?_name (c : Chain) : ofName? c.name = some c := by
  cases c <;> decide

end Chain

namespace Network

/-- Every network. -/
def all : List Network := [.main, .test, .stn]

/-- The network of a client that chooses none. -/
def standard : Network := .main

/-- The name of a network in addresses and messages. -/
def name : Network → String
  | .main => "main"
  | .test => "test"
  | .stn => "stn"

/-- The name of a network in diagnostic texts. -/
def label : Network → String
  | .main => "Main"
  | .test => "Test"
  | .stn => "Stn"

/-- The network of a name written exactly so. -/
def ofName? (s : String) : Option Network :=
  all.find? (·.name == s)

/-- Does the network exist on the chain (`is_available_on`)? -/
def availableOn (n : Network) (c : Chain) : Bool :=
  !(n == .stn && c == .btc)

theorem ofName?_name (n : Network) : ofName? n.name = some n := by
  cases n <;> decide

theorem availableOn_iff {n : Network} {c : Chain} :
    n.availableOn c = true ↔ ¬(n = .stn ∧ c = .btc) := by
  cases n <;> cases c <;> decide

end Network

end ExplorerClient
