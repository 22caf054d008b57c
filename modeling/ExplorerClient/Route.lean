import ExplorerClient.Chain
import ExplorerClient.Route.Template

/-!
# Routes

A route names an endpoint below the root that belongs to a chain and a network: the segments of a
path, some of them arguments, and the parameters of a query.

Results:
* `address_toList`: an address begins with the root of the service, the chain and the network.
-/

namespace ExplorerClient

/-- One segment of a route. -/
inductive Route.Segment where
  /-- A segment that belongs to the endpoint. -/
  | fixed (text : String)
  /-- A segment that an argument of the call fills. -/
  | arg (value : Route.Argument)

/-- A segment that a text fills. -/
def Route.Segment.text (value : String) : Route.Segment := .arg (.text value)

/-- A segment that a whole number fills. -/
def Route.Segment.number (value : Int) : Route.Segment := .arg (.number value)

/-- A text in a path belongs to the endpoint. -/
instance : Coe String Route.Segment := ⟨.fixed⟩

/-- The segments of a path and the parameters of a query. -/
structure Route where
  path : List Route.Segment
  query : List (String × Route.Argument) := []

namespace Route

/-- The address below which the service keeps all its routes (`API_BASE_URL`). -/
def root : String := "https://api.whatsonchain.com/v1/"

/-- The segment as it is written. -/
def Segment.written : Segment → String
  | .fixed text => text
  | .arg value => value.written

/-- A parameter as it is written. -/
def parameter (p : String × Argument) : String := p.1 ++ "=" ++ p.2.written

/-- The parameters as they are written behind the path. -/
def queryText (query : List (String × Argument)) : String :=
  match query with
  | [] => ""
  | _ => "?" ++ String.intercalate "&" (query.map parameter)

/-- The route as it is written below a chain and a network. -/
def text (r : Route) : String :=
  String.join (r.path.map fun s => "/" ++ s.written) ++ queryText r.query

/-- The address of a path below a chain and a network (`endpoint_url`). -/
def address (chain : Chain) (network : Network) (path : String) : String :=
  root ++ chain.name ++ "/" ++ network.name ++ path

theorem address_toList (chain : Chain) (network : Network) (path : String) :
    (address chain network path).toList =
      root.toList ++ chain.name.toList ++ ['/'] ++ network.name.toList ++ path.toList := by
  simp [address, String.toList_append]

end Route

end ExplorerClient
