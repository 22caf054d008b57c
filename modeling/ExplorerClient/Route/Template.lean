import ExplorerClient.Error
import ExplorerClient.Route.Escape

/-!
# Route templates

A template is a text with places, each written as an opening and a closing brace, that arguments
fill from left to right. Texts are escaped where they are filled in; whole numbers are written in
decimal.

Results:
* `expand_isOk_iff`: a template can be filled exactly when it has as many places as there are
  arguments.
-/

namespace ExplorerClient.Route

/-- What fills a place of a route (`PathArg`). -/
inductive Argument where
  /-- A text, escaped as part of a path. -/
  | text (value : String)
  /-- A whole number, in decimal. -/
  | number (value : Int)

/-- A truth value as an argument. -/
def Argument.bool (value : Bool) : Argument := .text (if value then "true" else "false")

/-- The argument as it is written into a route. -/
def Argument.written : Argument → String
  | .text value => escape value
  | .number value => Int.repr value

/-- A text with places between its pieces. -/
structure Template where
  /-- The piece in front of the first place. -/
  first : List Char
  /-- The pieces behind the places, one for each place. -/
  others : List (List Char)

namespace Template

/-- The template without places and of no text. -/
def empty : Template := ⟨[], []⟩

/-- Finds the places of a text from left to right, none overlapping another. -/
def ofChars : List Char → Template
  | [] => empty
  | '\x7b' :: '\x7d' :: rest =>
    let t := ofChars rest
    ⟨[], t.first :: t.others⟩
  | c :: rest =>
    let t := ofChars rest
    ⟨c :: t.first, t.others⟩

/-- Finds the places of a text. -/
def parse (text : String) : Template := ofChars text.toList

/-- The number of places. -/
def places (t : Template) : Nat := t.others.length

/-- The pieces with the arguments between them. -/
def fill (t : Template) (args : List Argument) : List Char :=
  t.first ++ (List.zipWith (fun arg piece => arg.written.toList ++ piece) args t.others).flatten

end Template

/-- Fills the places of a template (`expand_template`). The number of arguments has to be that of
the places. -/
def expand (template : String) (args : List Argument) : Except Error String :=
  let t := Template.parse template
  if args.length < t.places then
    .error (.badRequest ("missing argument for route template '" ++ template ++ "'"))
  else if t.places < args.length then
    .error (.badRequest ("too many arguments for route template '" ++ template ++ "'"))
  else .ok (String.ofList (t.fill args))

theorem expand_isOk_iff (template : String) (args : List Argument) :
    (∃ path, expand template args = .ok path) ↔
      args.length = (Template.parse template).places := by
  unfold expand
  simp only
  split
  · simp; omega
  · split
    · simp; omega
    · simp; omega

end ExplorerClient.Route
