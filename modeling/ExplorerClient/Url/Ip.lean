import ExplorerClient.Text.Percent
import ExplorerClient.Text.Split

/-!
# Numeric hosts

A host may be four bytes, read as a number: up to four numbers between points, of which the last one
fills the bytes that are left. Or it may be eight pieces of two bytes: they are written in
hexadecimal between colons, two colons stand for a run of pieces that are zero, and the last two
pieces may be written as four bytes.
-/

namespace ExplorerClient.Url.Ip

/-! ## Four bytes -/

/-- Reads a number to a base up to 16. No digit at all is zero. -/
def digits? (base : Nat) (ds : List Char) : Option Nat :=
  ds.foldlM (fun n d => do
    let v ← Text.hexValue? d
    if v < base then some (n * base + v) else none) 0

/-- Reads a number: octal after a zero, hexadecimal after a zero and an x. -/
def number? : List Char → Option Nat
  | [] => none
  | '0' :: 'x' :: ds | '0' :: 'X' :: ds => digits? 16 ds
  | '0' :: d :: ds => digits? 8 (d :: ds)
  | ds => digits? 10 ds

/-- The labels between the points, without an empty one at the end. -/
def labels (cs : List Char) : List (List Char) :=
  let ls := Text.split '.' cs
  if ls.getLast? = some [] then ls.dropLast else ls

/-- Does a name end like four bytes, with a number? -/
def endsInNumber (cs : List Char) : Bool :=
  match (labels cs).getLast? with
  | none => false
  | some l => (!l.isEmpty && l.all Char.isDigit) || (number? l).isSome

/-- Reads four bytes. -/
def v4? (cs : List Char) : Option Nat := do
  let ns ← (labels cs).mapM number?
  let last ← ns.getLast?
  let bytes := ns.dropLast
  let rest := 1 <<< (8 * (4 - bytes.length))
  if bytes.length < 4 && bytes.all (· < 256) && last < rest then
    some (bytes.foldl (fun n b => n * 256 + b) 0 * rest + last)
  else none

/-- Four bytes as they are written. -/
def v4Text (n : Nat) : List Char :=
  let bytes := [n >>> 24, (n >>> 16) % 256, (n >>> 8) % 256, n % 256]
  ['.'].intercalate (bytes.map (Nat.toDigits 10))

example : v4Text 0x7f000001 = "127.0.0.1".toList := by cbv

/-! ## Eight pieces -/

/-- Reads a piece of two bytes. -/
def piece? (ds : List Char) : Option Nat :=
  if 1 ≤ ds.length && ds.length ≤ 4 then digits? 16 ds else none

/-- Reads one of four bytes that stand for two pieces. -/
def byte? (ds : List Char) : Option Nat := do
  let n ← if ds.isEmpty || (ds.head? = some '0' && ds ≠ ['0']) then none else digits? 10 ds
  if n < 256 then some n else none

/-- Reads two pieces written as four bytes. -/
def dotted? (ds : List Char) : Option (List Nat) :=
  match (Text.split '.' ds).mapM byte? with
  | some [a, b, c, d] => some [a * 256 + b, c * 256 + d]
  | _ => none

/-- Reads pieces between colons. At the end of the address the last two may be four bytes. -/
def pieces? (atEnd : Bool) (cs : List Char) : Option (List Nat) :=
  if cs.isEmpty then some []
  else
    let ps := Text.split ':' cs
    match ps.getLast? with
    | some l =>
      if atEnd && l.contains '.' then do
        let first ← ps.dropLast.mapM piece?
        let last ← dotted? l
        some (first ++ last)
      else ps.mapM piece?
    | none => none

/-- Parts a text at the first two colons. -/
def partGap? : List Char → Option (List Char × List Char)
  | [] => none
  | ':' :: ':' :: rest => some ([], rest)
  | c :: rest => (partGap? rest).map fun (front, back) => (c :: front, back)

/-- Reads eight pieces. -/
def v6? (cs : List Char) : Option (List Nat) :=
  match partGap? cs with
  | none => do
    let ps ← pieces? true cs
    if ps.length = 8 then some ps else none
  | some (front, back) => do
    let front ← pieces? false front
    let back ← pieces? true back
    if front.length + back.length < 8 then
      some (front ++ List.replicate (8 - front.length - back.length) 0 ++ back)
    else none

/-- The length of the run of zeros at the start. -/
def zeros (ps : List Nat) : Nat := (ps.takeWhile (· == 0)).length

/-- The place and the length of the first longest run of zeros. -/
def longestZeros (ps : List Nat) : Nat × Nat :=
  (List.range ps.length).foldl (fun best place =>
    let run := zeros (ps.drop place)
    if best.2 < run then (place, run) else best) (0, 0)

/-- Pieces between colons. -/
def piecesText (ps : List Nat) : List Char := [':'].intercalate (ps.map (Nat.toDigits 16))

/-- Eight pieces as they are written: two colons stand for the longest run of zeros, if there are
two or more. -/
def v6Text (ps : List Nat) : List Char :=
  let (place, run) := longestZeros ps
  if run < 2 then piecesText ps
  else piecesText (ps.take place) ++ [':', ':'] ++ piecesText (ps.drop (place + run))

example : v6Text [0, 0, 0, 0, 0, 0, 0, 1] = "::1".toList := by cbv

end ExplorerClient.Url.Ip
