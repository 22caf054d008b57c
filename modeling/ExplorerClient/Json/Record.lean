import ExplorerClient.Json.Codec

/-!
# Records

A record is a structure whose fields stand under names in a JSON object. One description of its
fields serves for reading and for writing.

Every field may be missing and then has its blank value; a name that is no field's is passed over;
a field that stands twice is refused. Instead of an object an array may give the fields in order,
as many as it likes.
-/

namespace ExplorerClient.Json

/-- A field of a structure: its name in a text, the form of its values, and its place. -/
structure Field (σ : Type) where
  name : String
  {α : Type}
  codec : Codec α
  get : σ → α
  set : α → σ → σ
  /-- Is a field with this value written at all? -/
  shown : α → Bool

/-- A field that is always written. -/
def Field.always {σ α : Type} (name : String) (codec : Codec α) (get : σ → α)
    (set : α → σ → σ) : Field σ :=
  ⟨name, codec, get, set, fun _ => true⟩

/-- A field that is written when it has a value. -/
def Field.optional {σ α : Type} (name : String) (codec : Codec α) (get : σ → Option α)
    (set : Option α → σ → σ) : Field σ :=
  ⟨name, .option codec, get, set, Option.isSome⟩

/-- A structure whose fields have names. -/
class Record (σ : Type) where
  /-- The fields in the order in which they are written. -/
  fields : List (Field σ)
  /-- The record of which nothing is known. -/
  blank : σ

namespace Record

variable {σ : Type}

/-- Reads one field into a record. -/
def readField (depth : Nat) (f : Field σ) (t : Tree) (r : σ) : Except Fault σ :=
  (f.codec.read depth t).map fun value => f.set value r

/-- Reads the members of an object into a record; `seen` holds the names of the fields that have
been read already. -/
def readFields (fields : List (Field σ)) (depth : Nat) (seen : List String) :
    List (Except Fault String × Tree) → σ → Except Fault σ
  | [], r => .ok r
  | (name, t) :: rest, r => do
    let name ← name
    match fields.find? (·.name == name) with
    | none =>
      match t.passFault? with
      | some fault => .error fault
      | none => readFields fields depth seen rest r
    | some f =>
      if name ∈ seen then .error .mismatched
      else do
        let r ← readField depth f t r
        readFields fields depth (name :: seen) rest r

/-- Reads the values of an array into the fields of a record, in order. -/
def readPositions (depth : Nat) : List (Field σ) → List Tree → σ → Except Fault σ
  | _, [], r => .ok r
  | [], _ :: _, _ => .error .malformed
  | f :: fields, t :: rest, r => do
    let r ← readField depth f t r
    readPositions depth fields rest r

/-- The members of the object that a record is written as. -/
def members (fields : List (Field σ)) (r : σ) : List (String × Value) :=
  fields.filterMap fun f =>
    let value := f.get r
    if f.shown value then some (f.name, f.codec.write value) else none

/-- The form of the records of a type. -/
def codec (σ : Type) [Record σ] : Codec σ where
  read
    | 0, .object _ _ => .error .malformed
    | 0, .array _ _ => .error .malformed
    | depth + 1, .object ms close => do
      let r ← readFields (fields : List (Field σ)) depth [] ms blank
      closing close r
    | depth + 1, .array items close => do
      let r ← readPositions depth (fields : List (Field σ)) items blank
      closing close r
    | _, t => .error t.unwanted
  write r := .object (members fields r)

end Record

end ExplorerClient.Json
