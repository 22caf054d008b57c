import ExplorerClient.Text.Percent
import ExplorerClient.Text.Split

/-!
# Tables of numbers

A large table is kept as a text of rows between blanks, and a row as numbers in hexadecimal between
points. Rows of one kind give the values of one number each, rows of another the values of numbers
at even distances.
-/

namespace ExplorerClient.Text.Table

/-- The number that digits stand for. What is no digit counts as zero. -/
def number (ds : List Char) : Nat := ds.foldl (fun n d => n * 16 + (hexValue? d).getD 0) 0

/-- Is the character a blank between rows? -/
def isGap (c : Char) : Bool := c == ' ' || c == '\n'

/-- The rows of a text. -/
def rows (text : String) : List (List Nat) :=
  let pieces := split ' ' (text.toList.map fun c => if isGap c then ' ' else c)
  (pieces.filter (!·.isEmpty)).map fun row => (split '.' row).map number

/-- The number and the values of a row that begins with the number. -/
def entry? : List Nat → Option (Nat × List Nat)
  | key :: values => some (key, values)
  | [] => none

/-- The numbers and their values of a row that begins with the first of the numbers, how many they
are, how far they stand apart, and how much the values grow from one to the next. -/
def entries : List Nat → List (Nat × List Nat)
  | first :: count :: step :: growth :: values =>
    (List.range count).map fun i => (first + step * i, values.map (· + growth * i))
  | _ => []

example : rows " \n" = [] := by cbv

end ExplorerClient.Text.Table
