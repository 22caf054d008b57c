import ExplorerClient.Json.Byte
import ExplorerClient.Json.Tree

/-!
# Numerals

A numeral has a sign, a whole part without needless zeros, and possibly a fraction and an exponent.
Without the last two it stands for a whole number if 64 bits can hold it. All others, and minus
zero, stand for a double precision number, and are refused if that is infinite.

Which double it is takes two roundings. The digits are collected in a word of 64 bits, from the
first one that is no longer taken on only the number of those in front of the point counts, and the
word is made a double. That double is then multiplied or divided by the double of a power of ten.
With more digits than a double holds, or near the ends of the range, the outcome may be a neighbour
of the double nearest to the numeral.
-/

namespace ExplorerClient.Json

/-- The digits at the start of a text, and what follows them. -/
def digits (s : List UInt8) : List UInt8 × List UInt8 :=
  (s.takeWhile isDigit, s.dropWhile isDigit)

/-- The natural number of decimal digits. -/
def digitsValue (ds : List UInt8) : Nat :=
  Nat.ofDigitChars 10 (ds.map fun b => Char.ofNat b.toNat) 0

/-- The parts of a numeral. -/
structure Numeral where
  negative : Bool
  /-- The digits in front of the point. -/
  whole : List UInt8
  /-- The digits behind the point. -/
  fraction : List UInt8
  exponent : Int
  /-- Is there neither a point nor an exponent? -/
  plain : Bool

/-- Takes digits into a natural number as long as 64 bits hold it: the number, and the digits from
the first one on that does not fit. -/
def collect (n : Nat) : List UInt8 → Nat × List UInt8
  | [] => (n, [])
  | d :: ds =>
    let next := 10 * n + (d.toNat - 0x30)
    if next < 0x10000000000000000 then collect next ds else (n, d :: ds)

/-- The digits of a numeral as a natural number below 2 ^ 64, and the power of ten that goes with
it before the exponent counts. Behind the point digits are taken on from where the whole part
stopped, even if it left digits over. -/
def Numeral.significand (n : Numeral) : Nat × Int :=
  let (whole, counted) := collect 0 n.whole
  let (all, ignored) := collect whole n.fraction
  (all, (counted.length : Int) - (n.fraction.length - ignored.length))

/-- The double that a numeral is read as, unless it is infinite. An exponent that 32 bits do not
hold is not added to the power of ten: its sign alone tells zero from infinity. -/
def Numeral.double? (n : Numeral) : Option Binary64 :=
  let (significand, power) := n.significand
  let absolute? :=
    if n.exponent.natAbs ≤ 0x7fffffff then
      (Binary64.ofNat significand).scaled? (power + n.exponent)
    else if significand = 0 ∨ n.exponent < 0 then some .zero
    else none
  absolute?.map fun x => .ofMagnitude n.negative x.magnitude

/-- The number that a numeral stands for. -/
def Numeral.value (n : Numeral) : Except Fault Number :=
  let whole := digitsValue n.whole
  if n.plain && !n.negative && whole < 0x10000000000000000 then .ok (.int whole)
  else if n.plain && n.negative && 0 < whole && whole ≤ 0x8000000000000000 then
    .ok (.int (-(whole : Int)))
  else
    match n.double? with
    | some x => .ok (.float x)
    | none => .error .malformed

/-- Digits that have to be there. Passing over a numeral does not tell the end of the text from
another character. -/
def requiredDigits (s : List UInt8) : Except Halt (List UInt8 × List UInt8) :=
  match digits s with
  | ([], []) => .error ⟨.truncated, .malformed⟩
  | ([], _) => .error (.both .malformed)
  | found => .ok found

/-- The digits in front of the point: a zero that stands alone, or digits that begin with none. -/
def wholeDigits (s : List UInt8) : Except Halt (List UInt8 × List UInt8) :=
  match requiredDigits s with
  | .ok (0x30 :: _ :: _, _) => .error (.both .malformed)
  | found => found

/-- The point and the digits behind it, if there is a point. -/
def fractionDigits (s : List UInt8) : Except Halt (Option (List UInt8) × List UInt8) :=
  match s with
  | 0x2e :: rest => (requiredDigits rest).map fun (ds, rest) => (some ds, rest)
  | _ => .ok (none, s)

/-- The exponent, if there is one. -/
def exponentDigits (s : List UInt8) : Except Halt (Option Int × List UInt8) :=
  match s with
  | mark :: rest =>
    if mark = 0x65 ∨ mark = 0x45 then
      match rest with
      | 0x2d :: rest =>
        (requiredDigits rest).map fun (ds, rest) => (some (-(digitsValue ds : Int)), rest)
      | 0x2b :: rest =>
        (requiredDigits rest).map fun (ds, rest) => (some (digitsValue ds : Int), rest)
      | rest => (requiredDigits rest).map fun (ds, rest) => (some (digitsValue ds : Int), rest)
    else .ok (none, s)
  | [] => .ok (none, s)

/-- The minus sign, if there is one. -/
def minusSign (s : List UInt8) : Bool × List UInt8 :=
  match s with
  | 0x2d :: rest => (true, rest)
  | _ => (false, s)

/-- Reads a numeral and what follows it. -/
def readNumeral (s : List UInt8) : Except Halt (Numeral × List UInt8) := do
  let (negative, s) := minusSign s
  let (whole, s) ← wholeDigits s
  let (fraction, s) ← fractionDigits s
  let (exponent, s) ← exponentDigits s
  let plain := fraction.isNone && exponent.isNone
  pure (⟨negative, whole, fraction.getD [], exponent.getD 0, plain⟩, s)

end ExplorerClient.Json
