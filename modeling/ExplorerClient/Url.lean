import ExplorerClient.Url.Host
import ExplorerClient.Url.Path

/-!
# Addresses

An address is a scheme, an authority that names the server, a path, a query and a fragment. It is
kept as it is sent: with each part escaped, the path resolved, and no port where the scheme implies
it.
-/

namespace ExplorerClient

namespace Url

/-- Who asks, and where the server is. -/
structure Authority where
  user : List Char := []
  password : List Char := []
  host : Host
  port : Option Nat := none
  deriving DecidableEq

/-- An authority as it is written. -/
def Authority.text (a : Authority) : List Char :=
  let password := if a.password.isEmpty then [] else ':' :: a.password
  let who := a.user ++ password
  let port := match a.port with
    | none => []
    | some n => ':' :: Nat.toDigits 10 n
  (if who.isEmpty then [] else who ++ ['@']) ++ a.host.text ++ port

/-- What an address names. -/
inductive Target where
  /-- Segments of a path. -/
  | path (segments : List (List Char))
  /-- A text that is no path. -/
  | plain (text : List Char)
  deriving DecidableEq

/-- A target as it is written behind an authority. -/
def Target.text : Target → List Char
  | path segments => segments.flatMap ('/' :: ·)
  | plain text => text

end Url

/-- An address. -/
structure Url where
  scheme : List Char
  authority : Option Url.Authority
  target : Url.Target
  query : Option (List Char) := none
  fragment : Option (List Char) := none
  deriving DecidableEq

namespace Url

/-- An optional part behind the mark that begins it. -/
def marked (mark : Char) : Option (List Char) → List Char
  | none => []
  | some text => mark :: text

/-- The authority and the target as they are written. Without an authority a path must not begin
like one. -/
def place : Option Authority → Target → List Char
  | some a, target => '/' :: '/' :: a.text ++ target.text
  | none, .path ([] :: next :: rest) => '/' :: '.' :: (Target.path ([] :: next :: rest)).text
  | none, target => target.text

/-- The text of an address. -/
def text (u : Url) : String :=
  String.ofList (u.scheme ++ ':' :: place u.authority u.target ++ marked '?' u.query ++
    marked '#' u.fragment)

end Url

end ExplorerClient
