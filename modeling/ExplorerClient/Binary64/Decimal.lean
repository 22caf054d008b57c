import ExplorerClient.Binary64

/-!
# Decimal text of double precision numbers

The text of a number is a decimal to which no number is nearer, with the fewest digits; of two
decimals with that many digits the one nearer to the number is taken, and of two equally near ones
the larger.
Numbers whose first digit stands for a power of ten from -4 to 15 are written positionally, with a
fraction even if it is zero. All others are written with an exponent.
-/

namespace ExplorerClient.Binary64

/-- A decimal: `digits` times ten to the power `exponent`. -/
structure Decimal where
  digits : Nat
  exponent : Int

namespace Decimal

/-- The decimal as a fraction. -/
def num (d : Decimal) : Nat := d.digits * Nat.pow 10 d.exponent.toNat

/-- The denominator that goes with `num`. -/
def den (d : Decimal) : Nat := Nat.pow 10 (-d.exponent).toNat

end Decimal

/-- Does the decimal lie among the reals whose nearest number has the finite positive magnitude
`m`? The ends of that interval are half way to the neighbouring numbers, and belong to it when the
last bit of `m` is zero. -/
def roundsTo (m : Nat) (d : Decimal) : Bool :=
  let low := (units (m - 1) + units m) * d.den
  let high := (units m + units (m + 1)) * d.den
  let here := 2 * d.num * one
  if m % 2 = 0 then low ≤ here && here ≤ high else low < here && here < high

/-- The decimal with the given exponent that rounds to `m`, if there is one: the nearest to `m`, or
the larger of two nearest. -/
def onGrid? (m : Nat) (exponent : Int) : Option Decimal :=
  let num := units m * Nat.pow 10 (-exponent).toNat
  let den := one * Nat.pow 10 exponent.toNat
  let below : Decimal := ⟨num / den, exponent⟩
  let above : Decimal := ⟨num / den + 1, exponent⟩
  let nearer := if 2 * (num % den) < den then [below, above] else [above, below]
  nearer.find? fun d => d.digits != 0 && roundsTo m d

/-- The shortest decimal for the magnitude `m`, looked for on grids of falling exponents: `steps`
of them, the first with the exponent `exponent`. -/
def shortestFrom (m : Nat) : (steps : Nat) → (exponent : Int) → Decimal
  | 0, exponent => ⟨0, exponent⟩
  | steps + 1, exponent =>
    match onGrid? m exponent with
    | some d => d
    | none => shortestFrom m steps (exponent - 1)

/-- The shortest decimal that rounds to the finite positive magnitude `m`. No number reaches ten
to the power 309, and every number has its decimal on a grid above -1100. -/
def shortest (m : Nat) : Decimal := shortestFrom m 1409 309

/-- Zeros, `n` of them. -/
def zeros (n : Nat) : List Char := List.replicate n '0'

/-- The digits of a decimal with a point among them and at least one digit on either side. -/
def positional (digits : List Char) (exponent : Int) : List Char :=
  let point := (digits.length : Int) + exponent
  if 0 ≤ exponent then digits ++ zeros exponent.toNat ++ ['.', '0']
  else if 0 < point then digits.take point.toNat ++ ['.'] ++ digits.drop point.toNat
  else ['0', '.'] ++ zeros (-point).toNat ++ digits

/-- The digits of a decimal with a point after the first and the power of ten of the first behind
them. -/
def scientific (digits : List Char) (exponent : Int) : List Char :=
  let power := (digits.length : Int) + exponent - 1
  let mantissa := match digits with
    | [] | [_] => digits
    | first :: rest => first :: '.' :: rest
  mantissa ++ ['e'] ++ (Int.repr power).toList

/-- The text of a finite magnitude. -/
def magnitudeText (m : Nat) : List Char :=
  if m = 0 then ['0', '.', '0']
  else
    let d := shortest m
    let digits := Nat.toDigits 10 d.digits
    let power := (digits.length : Int) + d.exponent - 1
    if -4 ≤ power ∧ power ≤ 15 then positional digits d.exponent else scientific digits d.exponent

/-- The text of a number. -/
def text (x : Binary64) : String :=
  if x.isNaN then "NaN"
  else
    let magnitude := if x.isInfinite then ['i', 'n', 'f'] else magnitudeText x.magnitude
    String.ofList (if x.negative then '-' :: magnitude else magnitude)

example : ((ofNat 1).divNat 10).text = "0.1" ∧ (ofMagnitude false 1).text = "5e-324" := by
  decide +kernel

end ExplorerClient.Binary64
