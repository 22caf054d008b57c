import ExplorerClient.Json.Fault
import ExplorerClient.Json.Value

/-!
# What a text says

A text is first read into a tree, without regard to the form that is wanted of it. The tree holds
everything the text says up to the first place at which it stops being JSON: only its last branch
can be cut off there. A value that is wanted is then taken out of the tree from left to right, so
that of two faults the one further left is reported.

A value nobody wants is passed over with less care than a value that is used: its numbers may be out
of range and its strings need not be UTF-8. So a tree holds, for a number and for a string, the
outcome of using it, and where the text is cut off, the faults of both ways of reading.
-/

namespace ExplorerClient.Json

/-- How reading stops: for a reader that uses the value, and for one that passes over it. -/
structure Halt where
  used : Fault
  passed : Fault

/-- Both readers stop alike. -/
def Halt.both (fault : Fault) : Halt := ⟨fault, fault⟩

/-- What a text says, as far as it is JSON. -/
inductive Tree where
  | null
  | bool (value : Bool)
  | number (value : Except Fault Number)
  | text (value : Except Fault String)
  /-- The values of an array, and where it is cut off behind one of them. -/
  | array (items : List Tree) (close : Option Halt)
  /-- The members of an object, and where it is cut off behind one of them or in a name. -/
  | object (members : List (Except Fault String × Tree)) (close : Option Halt)
  /-- No value stands here. -/
  | halted (halt : Halt)

mutual

/-- The fault met by passing over a value. -/
def Tree.passFault? : Tree → Option Fault
  | .array items close => (itemsPassFault? items).or (close.map (·.passed))
  | .object members close => (membersPassFault? members).or (close.map (·.passed))
  | .halted halt => some halt.passed
  | _ => none

/-- The fault met by passing over the values of an array. -/
def itemsPassFault? : List Tree → Option Fault
  | [] => none
  | t :: rest => t.passFault?.or (itemsPassFault? rest)

/-- The fault met by passing over the members of an object. -/
def membersPassFault? : List (Except Fault String × Tree) → Option Fault
  | [] => none
  | (_, t) :: rest => t.passFault?.or (membersPassFault? rest)

end

/-- The fault of a value that is not of the form wanted. A scalar is read to its end before its form
is looked at, an array or an object is not. -/
def Tree.unwanted : Tree → Fault
  | .number (.error fault) => fault
  | .text (.error fault) => fault
  | .halted halt => halt.used
  | _ => .mismatched

/-- What has been read, unless reading stopped behind it. -/
def closing {α : Type} (close : Option Halt) (value : α) : Except Fault α :=
  match close with
  | none => .ok value
  | some halt => .error halt.used

end ExplorerClient.Json
