import ExplorerClient.Text.Split
import ExplorerClient.Url.Break

/-!
# Paths

A path is a list of segments. A segment that spells one dot stands for nothing, and one that spells
two takes away the segment in front of it; either leaves an empty segment where it comes last. A dot
may be written by its number. A segment that is named like a drive is never taken away. In the path
of a file a break behind the drive parts it from what follows, which then stands for itself.

Results:
* `resolve_eq_self`: a path without such segments stays as it is.
-/

namespace ExplorerClient.Url.Path

/-- The number of dots that a segment spells, if it spells nothing else. -/
def dots? : List Char → Option Nat
  | [] => some 0
  | '.' :: rest => (dots? rest).map (· + 1)
  | '%' :: '2' :: 'e' :: rest | '%' :: '2' :: 'E' :: rest => (dots? rest).map (· + 1)
  | _ => none

/-- Is the segment named like a drive, by a letter and a colon or a bar? A backslash ends the
name. -/
def isDrive : List Char → Bool
  | letter :: mark :: rest =>
    letter.isAlpha && (mark == ':' || mark == '|') && rest.head?.all (· == '\\')
  | _ => false

/-- The segments above those in `done`, which holds the last one first. -/
def parent : List (List Char) → List (List Char)
  | [] => []
  | s :: above => if isDrive s then s :: above else above

/-- The segments passed, the last one first, once another one is that stands in front of others. -/
def pass (done : List (List Char)) (s : List Char) : List (List Char) :=
  match dots? s with
  | some 2 => parent done
  | some 1 => done
  | _ => s :: done

/-- The segments passed, the last one first, once the last one of all is. -/
def passLast (done : List (List Char)) (s : List Char) : List (List Char) :=
  match dots? s with
  | some 2 => [] :: parent done
  | some 1 => [] :: done
  | _ => s :: done

/-- Resolves the segments that spell one or two dots; `done` holds the segments already passed, the
last one first. -/
def resolveFrom (done : List (List Char)) : List (List Char) → List (List Char)
  | [] => done.reverse
  | [s] => (passLast done s).reverse
  | s :: next :: rest => resolveFrom (pass done s) (next :: rest)

/-- Resolves the segments that spell one or two dots. -/
def resolve (path : List (List Char)) : List (List Char) := resolveFrom [] path

/-- The segments of a path, resolved. -/
def ofText (text : List Char) : List (List Char) := resolve (Text.split '/' text)

/-- Does the path begin with a drive? -/
def hasDrive (path : List (List Char)) : Bool := path.head?.any isDrive

/-- A path of which the drive is marked by a colon. -/
def markDrive : List (List Char) → List (List Char)
  | [letter, '|'] :: rest => if letter.isAlpha then [letter, ':'] :: rest else [letter, '|'] :: rest
  | path => path

/-- The drive that a segment begins with, and what a break parts from it. -/
def brokenDrive? (s : List Char) : Option (List Char × List Char) :=
  match s.dropWhile isBreak with
  | letter :: rest =>
    match rest.dropWhile isBreak with
    | ':' :: c :: name =>
      if letter.isAlpha && isBreak c && !(unbroken name).isEmpty then
        some ([letter, ':'], unbroken name)
      else none
    | _ => none
  | [] => none

/-- The path of segments with breaks in them, resolved, if it comes to begin with a drive that a
break parts from what follows; `done` holds the segments already passed, the last one first. -/
def ofBroken? (done : List (List Char)) : List (List Char) → Option (List (List Char))
  | [] => none
  | s :: rest =>
    match if done.isEmpty then brokenDrive? s else none with
    | some (drive, name) => some (resolveFrom [name, drive] (rest.map unbroken))
    | none => ofBroken? (pass done (unbroken s)) rest

/-- A path without the empty segments in front of others. -/
def dropEmpty : List (List Char) → List (List Char)
  | [] :: next :: rest => dropEmpty (next :: rest)
  | path => path

theorem resolveFrom_eq {path : List (List Char)}
    (plain : ∀ s ∈ path, dots? s ≠ some 1 ∧ dots? s ≠ some 2) (done : List (List Char)) :
    resolveFrom done path = done.reverse ++ path := by
  fun_induction resolveFrom done path <;> simp_all [pass, passLast]

theorem resolve_eq_self {path : List (List Char)}
    (plain : ∀ s ∈ path, dots? s ≠ some 1 ∧ dots? s ≠ some 2) : resolve path = path := by
  simp [resolve, resolveFrom_eq plain]

end ExplorerClient.Url.Path
