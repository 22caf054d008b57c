import ExplorerClient.Url.Component
import ExplorerClient.Url.Fault
import ExplorerClient.Url.Folding
import ExplorerClient.Url.Ip
import ExplorerClient.Url.Punycode

/-!
# Hosts

The host of an address of the web is a name or numeric. A name is folded and written in ASCII, label
by label. Elsewhere a name is left as it is, but for what has to be written by its number.
-/

namespace ExplorerClient.Url

/-- A host. The empty name stands for no host at all. -/
inductive Host where
  | name (text : List Char)
  /-- Four bytes, as one number. -/
  | ipv4 (value : Nat)
  /-- Eight pieces of two bytes. -/
  | ipv6 (pieces : List Nat)
  deriving DecidableEq

namespace Host

/-- A host as it is written. -/
def text : Host → List Char
  | name text => text
  | ipv4 value => Ip.v4Text value
  | ipv6 pieces => '[' :: Ip.v6Text pieces ++ [']']

/-! ## Names -/

/-- A label in ASCII. -/
def ascii (label : List Char) : List Char :=
  if label.all (·.toNat < 0x80) then label else "xn--".toList ++ Punycode.encode label

/-- The marks that no name holds. -/
def forbidden : List Char := " #/:<>?@[\\]^|".toList

/-- May a name of a host on the web hold the character? -/
def isNameChar (c : Char) : Bool :=
  0x20 < c.toNat && c.toNat != 0x7f && c != '%' && !forbidden.contains c

/-- The name of a host on the web, folded and written in ASCII. -/
def webName (bytes : List UInt8) : Except Fault (List Char) := do
  let some text := String.fromUTF8? ⟨bytes.toArray⟩ | throw .name
  let name := ['.'].intercalate ((Text.split '.' (fold text.toList)).map ascii)
  if name.all isNameChar then pure name else throw .name

/-! ## Reading -/

/-- Reads a host that is bracketed. -/
def bracketed (cs : List Char) : Except Fault Host :=
  match cs.getLast?, Ip.v6? cs.dropLast with
  | some ']', some pieces => .ok (.ipv6 pieces)
  | _, _ => .error .ipv6

/-- Reads a host of the web. -/
def ofWeb (cs : List Char) : Except Fault Host :=
  match cs with
  | '[' :: rest => bracketed rest
  | _ => do
    let name ← webName (Text.percentDecode cs)
    if name.isEmpty then throw .noHost
    else if Ip.endsInNumber name then
      match Ip.v4? name with
      | some value => pure (.ipv4 value)
      | none => throw .ipv4
    else pure (.name name)

/-- Reads a host elsewhere. -/
def ofOther (cs : List Char) : Except Fault Host :=
  match cs with
  | '[' :: rest => bracketed rest
  | _ =>
    if cs.any fun c => c.toNat == 0 || forbidden.contains c then throw .character
    else pure (.name (Component.other.encode cs))

end Host

end ExplorerClient.Url
