import ExplorerClient.Json.Byte
import ExplorerClient.Json.Tree

/-!
# Strings of a JSON text

A string is read from behind its opening quote to behind its closing one. Its escapes for code units
beyond the basic plane come in pairs, and its bytes have to be UTF-8. A reader that passes over a
string only looks at escapes and control characters, so a bad pair or a bad byte is remembered and
does not end the reading.
-/

namespace ExplorerClient.Json

/-- A string of which some has been read. -/
structure Quotation where
  /-- The bytes of the string so far, the last one first. -/
  bytes : List UInt8 := []
  /-- The first half of a pair of escapes that waits for the second. -/
  lead : Option Nat := none
  /-- Has half a pair of escapes been found? -/
  broken : Bool := false

namespace Quotation

/-- Adds the bytes of something that is not the second half of a pair. -/
def add (q : Quotation) (bytes : List UInt8) : Quotation :=
  ⟨bytes.reverse ++ q.bytes, none, q.broken || q.lead.isSome⟩

/-- Adds a code unit written as an escape. -/
def addUnit (q : Quotation) (unit : Nat) : Quotation :=
  if 0xdc00 ≤ unit ∧ unit ≤ 0xdfff then
    match q.lead with
    | some lead =>
      let point := 0x10000 + (lead - 0xd800) * 0x400 + (unit - 0xdc00)
      ⟨(String.utf8EncodeChar (Char.ofNat point)).reverse ++ q.bytes, none, q.broken⟩
    | none => ⟨q.bytes, none, true⟩
  else if 0xd800 ≤ unit ∧ unit ≤ 0xdbff then
    ⟨q.bytes, some unit, q.broken || q.lead.isSome⟩
  else q.add (String.utf8EncodeChar (Char.ofNat unit))

/-- How reading stops inside the string. -/
def halt (q : Quotation) (fault : Fault) : Halt :=
  ⟨if q.broken then .malformed else fault, fault⟩

/-- The string, once its closing quote has been read. -/
def finish (q : Quotation) : Except Fault String :=
  if q.broken || q.lead.isSome then .error .malformed
  else match String.fromUTF8? q.bytes.reverse.toByteArray with
    | some s => .ok s
    | none => .error .malformed

end Quotation

/-- The byte that a letter behind a backslash stands for. -/
def escaped? (letter : UInt8) : Option UInt8 :=
  if letter = 0x22 ∨ letter = 0x5c ∨ letter = 0x2f then some letter
  else if letter = 0x62 then some 0x08
  else if letter = 0x66 then some 0x0c
  else if letter = 0x6e then some 0x0a
  else if letter = 0x72 then some 0x0d
  else if letter = 0x74 then some 0x09
  else none

/-- The code unit of four hexadecimal digits. -/
def unit? (a b c d : UInt8) : Option Nat := do
  let a ← hexValue? a
  let b ← hexValue? b
  let c ← hexValue? c
  let d ← hexValue? d
  pure (((a * 16 + b) * 16 + c) * 16 + d)

/-- Reads the rest of a string and what follows it. -/
def readString (q : Quotation) : List UInt8 →
    Except Halt (Except Fault String × List UInt8)
  | [] => .error (q.halt .truncated)
  | 0x22 :: rest => .ok (q.finish, rest)
  | 0x5c :: 0x75 :: a :: b :: c :: d :: rest =>
    match unit? a b c d with
    | some unit => readString (q.addUnit unit) rest
    | none => .error (q.halt .malformed)
  | 0x5c :: 0x75 :: _ => .error (q.halt .truncated)
  | 0x5c :: letter :: rest =>
    match escaped? letter with
    | some b => readString (q.add [b]) rest
    | none => .error (q.halt .malformed)
  | 0x5c :: [] => .error (q.halt .truncated)
  | b :: rest =>
    if b < 0x20 then .error (q.halt .malformed) else readString (q.add [b]) rest

end ExplorerClient.Json
