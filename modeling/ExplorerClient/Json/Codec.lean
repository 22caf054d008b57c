import ExplorerClient.Json.Reader

/-!
# Forms of values

A form tells how the values of a type are taken out of a tree and how they are written. Arrays and
objects may be opened to a depth of 127; taking one out below that depth fails before its content is
looked at.
-/

namespace ExplorerClient.Json

/-- How the values of a type stand in a JSON text. -/
structure Codec (α : Type) where
  /-- Takes a value out of a tree, with the number of arrays and objects that may still be
  opened. -/
  read : Nat → Tree → Except Fault α
  write : α → Value

namespace Codec

/-- The depth to which arrays and objects may be opened. -/
def maxDepth : Nat := 127

/-- Truth values. -/
def bool : Codec Bool where
  read _
    | .bool value => .ok value
    | t => .error t.unwanted
  write := .bool

/-- Strings. -/
def text : Codec String where
  read _
    | .text value => value
    | t => .error t.unwanted
  write := .text

/-- Takes a whole number of a range out of a tree. -/
def readInt (low high : Int) : Tree → Except Fault Int
  | .number (.ok (.int value)) =>
    if low ≤ value ∧ value ≤ high then .ok value else .error .mismatched
  | t => .error t.unwanted

/-- Whole numbers of 64 bits with a sign. -/
def int64 : Codec Int64 where
  read _ t := (readInt (-0x8000000000000000) 0x7fffffffffffffff t).map Int64.ofInt
  write value := .number (.int value.toInt)

/-- Whole numbers of 32 bits with a sign. -/
def int32 : Codec Int32 where
  read _ t := (readInt (-0x80000000) 0x7fffffff t).map Int32.ofInt
  write value := .number (.int value.toInt)

/-- Whole numbers of 64 bits without a sign. -/
def uint64 : Codec UInt64 where
  read _ t := (readInt 0 0xffffffffffffffff t).map fun value => UInt64.ofNat value.toNat
  write value := .number (.int value.toNat)

/-- Whole numbers of 32 bits without a sign. -/
def uint32 : Codec UInt32 where
  read _ t := (readInt 0 0xffffffff t).map fun value => UInt32.ofNat value.toNat
  write value := .number (.int value.toNat)

/-- A number as a double precision one. -/
def toFloat : Number → Binary64
  | .float value => value
  | .int value => { Binary64.ofNat value.natAbs with negative := value < 0 }

/-- Double precision numbers, which may be written as whole ones. -/
def float : Codec Binary64 where
  read _
    | .number (.ok value) => .ok (toFloat value)
    | t => .error t.unwanted
  write value := .number (.float value)

/-- Values that may be `null`. -/
def option {α : Type} (c : Codec α) : Codec (Option α) where
  read depth
    | .null => .ok none
    | t => (c.read depth t).map some
  write
    | none => .null
    | some value => c.write value

/-- Values that may be `null`, which stands for the given one. -/
def orNull {α : Type} (c : Codec α) (absent : α) : Codec α where
  read depth t := ((option c).read depth t).map (·.getD absent)
  write := c.write

/-- Lists, as arrays. -/
def list {α : Type} (c : Codec α) : Codec (List α) where
  read
    | 0, .array _ _ => .error .malformed
    | depth + 1, .array items close => do
      let values ← items.mapM (c.read depth)
      closing close values
    | _, t => .error t.unwanted
  write values := .array (values.map c.write)

end Codec

/-! ## Any value -/

/-- The members with one more. A name that is there already keeps its place and gets the new
value. -/
def putMember (name : String) (value : Value) : List (String × Value) → List (String × Value)
  | [] => [(name, value)]
  | (n, v) :: rest => if n = name then (n, value) :: rest else (n, v) :: putMember name value rest

mutual

/-- Takes any value out of a tree. -/
def readAny (depth : Nat) : Tree → Except Fault Value
  | .null => .ok .null
  | .bool value => .ok (.bool value)
  | .number value => value.map .number
  | .text value => value.map .text
  | .array items close =>
    match depth with
    | 0 => .error .malformed
    | depth + 1 => do
      let values ← readAnyItems depth items
      closing close (.array values)
  | .object members close =>
    match depth with
    | 0 => .error .malformed
    | depth + 1 => do
      let values ← readAnyMembers depth [] members
      closing close (.object values)
  | .halted halt => .error halt.used

/-- Takes the values of an array out of their trees. -/
def readAnyItems (depth : Nat) : List Tree → Except Fault (List Value)
  | [] => .ok []
  | t :: rest => do
    let value ← readAny depth t
    let values ← readAnyItems depth rest
    pure (value :: values)

/-- Takes the members of an object out of their trees, behind those of `done`. -/
def readAnyMembers (depth : Nat) (done : List (String × Value)) :
    List (Except Fault String × Tree) → Except Fault (List (String × Value))
  | [] => .ok done
  | (name, t) :: rest => do
    let name ← name
    let value ← readAny depth t
    readAnyMembers depth (putMember name value done) rest

end

/-- Any value. -/
def Codec.any : Codec Value where
  read := readAny
  write value := value

/-! ## Whole texts -/

/-- The value of a text, behind which only blanks may stand. -/
def decode {α : Type} (c : Codec α) (bytes : List UInt8) : Except Fault α := do
  let (tree, alone) := read bytes
  let value ← c.read Codec.maxDepth tree
  if alone then pure value else throw .malformed

/-- The text of a value. -/
def encode {α : Type} (c : Codec α) (value : α) : String := (c.write value).render

end ExplorerClient.Json
