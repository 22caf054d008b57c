import ExplorerClient.Binary64.Decimal

/-!
# JSON values and their compact text

A value is written without blanks, the members of an object in their order. Strings escape the
double quote, the backslash and the control characters below the space, and nothing else.

Results:
* `quoteChar_eq_self`: a character without a special meaning is written as itself.
-/

namespace ExplorerClient.Json

/-- A number: a whole one, or a double precision one. -/
inductive Number where
  | int (value : Int)
  | float (value : Binary64)
  deriving DecidableEq

/-- A JSON value. -/
inductive Value where
  | null
  | bool (value : Bool)
  | number (value : Number)
  | text (value : String)
  | array (items : List Value)
  | object (members : List (String × Value))

/-! ## Strings -/

/-- The small hexadecimal digit of a number below sixteen. -/
def hexDigit (n : Nat) : Char :=
  if n < 10 then Char.ofNat (0x30 + n) else Char.ofNat (0x57 + n)

/-- How a character is written inside a string. -/
def quoteChar (c : Char) : List Char :=
  if c = '\x22' then ['\\', '\x22']
  else if c = '\\' then ['\\', '\\']
  else if 0x20 ≤ c.toNat then [c]
  else if c = '\x08' then ['\\', 'b']
  else if c = '\x09' then ['\\', 't']
  else if c = '\x0a' then ['\\', 'n']
  else if c = '\x0c' then ['\\', 'f']
  else if c = '\x0d' then ['\\', 'r']
  else ['\\', 'u', '0', '0', hexDigit (c.toNat / 16), hexDigit (c.toNat % 16)]

/-- A string as it is written. -/
def quote (s : String) : String :=
  String.ofList ('\x22' :: (s.toList.flatMap quoteChar ++ ['\x22']))

theorem quoteChar_eq_self {c : Char} (hq : c ≠ '\x22') (hb : c ≠ '\\') (hc : 0x20 ≤ c.toNat) :
    quoteChar c = [c] := by
  simp [quoteChar, hq, hb, hc]

/-! ## Values -/

/-- A number as it is written. JSON has no words for what is not a finite number. -/
def Number.render : Number → String
  | .int value => Int.repr value
  | .float value => if value.isNaN || value.isInfinite then "null" else value.text

/-- Texts with commas between them. -/
def commas (parts : List String) : String := String.intercalate "," parts

mutual

/-- The compact text of a value. -/
def Value.render : Value → String
  | .null => "null"
  | .bool true => "true"
  | .bool false => "false"
  | .number value => value.render
  | .text value => quote value
  | .array items => "[" ++ commas (renderItems items) ++ "]"
  | .object members => "\x7b" ++ commas (renderMembers members) ++ "\x7d"

/-- The texts of the values of an array. -/
def renderItems : List Value → List String
  | [] => []
  | v :: rest => v.render :: renderItems rest

/-- The texts of the members of an object. -/
def renderMembers : List (String × Value) → List String
  | [] => []
  | (name, v) :: rest => (quote name ++ ":" ++ v.render) :: renderMembers rest

end

/-- A list of texts as an array. -/
def Value.texts (xs : List String) : Value := .array (xs.map .text)

end ExplorerClient.Json
