import ExplorerClient.Text.Blank
import ExplorerClient.Url

/-!
# Reading addresses

An address is read from its scheme on. Blanks around it do not count, nor do tabs and line breaks
within, unless they stand behind the drive of a file. On the web a backslash is as good as a slash
in front of the query, any number of them leads to the authority, and there is always a path. A file
has a path, which may begin with a drive. Elsewhere what follows the scheme is a path only if it
begins with a slash, or with a backslash behind a port.

Results:
* `ofWeb_ok`, `ofChars_web`: an address of the web is read once its authority is, whatever comes
  behind.
-/

namespace ExplorerClient.Url

/-! ## Schemes -/

/-- The schemes of the web, with the ports that they imply. -/
def webSchemes : List (List Char × Nat) :=
  [("http".toList, 80), ("https".toList, 443), ("ws".toList, 80), ("wss".toList, 443),
    ("ftp".toList, 21)]

/-- How the text behind a scheme is read. -/
inductive Family where
  | web
  | file
  | other
  deriving DecidableEq

/-- The family of a scheme. -/
def family (scheme : List Char) : Family :=
  if (webSchemes.lookup scheme).isSome then .web
  else if scheme = "file".toList then .file
  else .other

/-- May the character be part of a scheme? -/
def isSchemeChar (c : Char) : Bool := c.isAlphanum || c == '+' || c == '-' || c == '.'

/-- Parts a text at the colon behind its scheme. -/
def partScheme? (cs : List Char) : Option (List Char × List Char) :=
  match cs.takeWhile isSchemeChar, cs.dropWhile isSchemeChar with
  | c :: name, ':' :: rest =>
    if c.isAlpha then some ((c :: name).map Char.toLower, rest) else none
  | _, _ => none

/-! ## Authorities -/

/-- Reads a port, up to a backslash. It is none where the scheme implies it. -/
def port? (implied : Option Nat) (cs : List Char) : Except Fault (Option Nat) :=
  let ds := cs.takeWhile (· != '\\')
  if ds.isEmpty then .ok none
  else match ds.all Char.isDigit, Ip.digits? 10 ds with
    | true, some n =>
      if 65535 < n then .error .port else .ok (if some n = implied then none else some n)
    | _, _ => .error .port

/-- Parts a host from its port, at the first colon outside of brackets. -/
def partPort (bracketed : Bool) : List Char → List Char × List Char
  | [] => ([], [])
  | c :: rest =>
    if c = ':' && !bracketed then ([], rest)
    else
      let bracketed := if c = '[' then true else if c = ']' then false else bracketed
      let (host, port) := partPort bracketed rest
      (c :: host, port)

/-- Reads an authority. What stands in front of the last at sign says who asks. What stands behind
the port is left over. -/
def Authority.read (scheme cs : List Char) : Except Fault (Authority × List Char) := do
  let server := (cs.reverse.takeWhile (· != '@')).reverse
  let who := cs.take (cs.length - server.length - 1)
  let user := Component.user.encode (who.takeWhile (· != ':'))
  let password := Component.user.encode ((who.dropWhile (· != ':')).drop 1)
  let (host, port) := partPort false server
  let implied := webSchemes.lookup scheme
  let host ← if implied.isSome then
      if host.isEmpty then throw .noHost else Host.ofWeb host
    else Host.ofOther host
  if host = .name [] && (server.contains ':' || !user.isEmpty || !password.isEmpty) then
    throw .noHost
  pure ({ user, password, host, port := ← port? implied port }, port.dropWhile (· != '\\'))

/-! ## What an address names -/

/-- A slash for a backslash. -/
def slash (c : Char) : Char := if c = '\\' then '/' else c

/-- Is the character not the slash that begins a path? -/
def inAuthority (c : Char) : Bool := c != '/'

/-- A path of segments that are still to be escaped. -/
def Target.ofSegments (segments : List (List Char)) : Target :=
  .path (segments.map Component.path.encode)

/-- Reads what follows the scheme of an address of the web. -/
def ofWeb (scheme cs : List Char) : Except Fault (Option Authority × Target) := do
  let cs := (cs.map slash).dropWhile (· == '/')
  let (a, _) ← Authority.read scheme (cs.takeWhile inAuthority)
  pure (some a, .ofSegments (Path.ofText ((cs.dropWhile inAuthority).drop 1)))

theorem ofWeb_ok {scheme cs left : List Char} {a : Authority}
    (read : Authority.read scheme (((cs.map slash).dropWhile (· == '/')).takeWhile inAuthority) =
      .ok (a, left)) :
    ofWeb scheme cs = .ok (some a, .ofSegments (Path.ofText
      ((((cs.map slash).dropWhile (· == '/')).dropWhile inAuthority).drop 1))) := by
  simp only [ofWeb, read]
  rfl

/-- Reads the host of a file. This computer needs no name. -/
def fileHost (cs : List Char) : Except Fault Host := do
  if cs.isEmpty then pure (.name [])
  else
    let host ← Host.ofWeb cs
    pure (if host = .name "localhost".toList then .name [] else host)

/-- What follows a slash, if a text begins with one. -/
def behindSlash? (cs : List Char) : Option (List Char) :=
  match cs.dropWhile isBreak with
  | '/' :: rest => some rest
  | _ => none

/-- Parts the host of a file from its path. Behind an authority that names no host the slash that
begins the path is an empty segment. -/
def partFile (cs : List Char) : Except Fault (Host × List Char) :=
  match behindSlash? cs with
  | none => .ok (.name [], cs)
  | some path =>
    match behindSlash? path with
    | none => .ok (.name [], path)
    | some rest => do
      let name := unbroken (rest.takeWhile inAuthority)
      if Path.isDrive name then pure (.name [], rest)
      else
        let host ← fileHost name
        let path := rest.dropWhile inAuthority
        pure (host, if host = .name [] then path else path.drop 1)

/-- Reads what follows the scheme of an address of a file, with the breaks in it. A drive takes the
place of the host, unless a break parts it from what follows. -/
def ofFile (cs : List Char) : Except Fault (Option Authority × Target) := do
  let (host, path) ← partFile (cs.map slash)
  let pieces := Text.split '/' path
  match Path.ofBroken? [] pieces with
  | some segments => pure (some { host }, .ofSegments segments)
  | none =>
    let segments := Path.resolve (pieces.map unbroken)
    let host := if Path.hasDrive segments then .name [] else host
    pure (some { host }, .ofSegments (Path.dropEmpty (Path.markDrive segments)))

/-- Reads what follows another scheme; `tail` is what stands behind it. An at sign alone is no
authority in front of anything. -/
def ofOther (scheme cs tail : List Char) : Except Fault (Option Authority × Target) :=
  match cs with
  | '/' :: '/' :: rest => do
    let (server, path) := (rest.takeWhile inAuthority, rest.dropWhile inAuthority)
    if server = ['@'] && !(path ++ tail).isEmpty then throw .noHost
    let (a, left) ← Authority.read scheme server
    match left ++ path with
    | [] => pure (some a, .path [])
    | '/' :: path | path => pure (some a, .ofSegments (Path.ofText path))
  | '/' :: path => .ok (none, .ofSegments (Path.ofText path))
  | text => .ok (none, .plain (Component.other.encode text))

/-! ## Addresses -/

/-- Does the character not begin a query or a fragment? -/
def inPlace (c : Char) : Bool := c != '?' && c != '#'

/-- Does the character not begin a fragment? -/
def inQuery (c : Char) : Bool := c != '#'

/-- Reads the query in the text behind a path. -/
def query? (web : Bool) : List Char → Option (List Char)
  | '?' :: rest => some ((Component.query web).encode (rest.takeWhile inQuery))
  | _ => none

/-- Reads the fragment in the text behind a path. -/
def fragment? (cs : List Char) : Option (List Char) :=
  match cs.dropWhile inQuery with
  | _ :: rest => some (Component.fragment.encode rest)
  | [] => none

/-- Is the character a control or a blank? -/
def isMargin (c : Char) : Bool := c.toNat ≤ 0x20

/-- What stands between the scheme and the query, with the breaks in it. -/
def brokenPlace (cs : List Char) : List Char :=
  ((cs.dropWhile (· != ':')).drop 1).takeWhile inPlace

/-- Reads the characters of an address. -/
def ofChars (cs : List Char) : Except Fault Url := do
  let some (scheme, rest) := partScheme? (unbroken cs) | throw .noScheme
  let (place, tail) := (rest.takeWhile inPlace, rest.dropWhile inPlace)
  let (authority, target) ← match family scheme with
    | .web => ofWeb scheme place
    | .file => ofFile (brokenPlace cs)
    | .other => ofOther scheme place tail
  pure { scheme, authority, target, query := query? (family scheme != .other) tail,
         fragment := fragment? tail }

theorem ofChars_web {cs scheme rest : List Char} {a : Authority} {t : Target}
    (parted : partScheme? (unbroken cs) = some (scheme, rest)) (web : family scheme = .web)
    (read : ofWeb scheme (rest.takeWhile inPlace) = .ok (some a, t)) :
    ofChars cs = .ok ⟨scheme, some a, t, query? true (rest.dropWhile inPlace),
      fragment? (rest.dropWhile inPlace)⟩ := by
  simp only [ofChars, parted, web, read]
  rfl

/-- Reads an address. -/
def parse (text : String) : Except Fault Url := ofChars (Text.stripEnds isMargin text.toList)

end ExplorerClient.Url
