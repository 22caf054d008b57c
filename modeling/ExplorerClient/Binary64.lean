/-!
# Double precision numbers

The numbers of the binary interchange format with 64 bits, exactly: each operation computes its
result without error and rounds it once, to the nearest number and on a tie to the one whose last
bit is zero.

A number is a sign and a magnitude. The magnitude is the number's remaining 63 bits read as a
natural number, so larger magnitudes are larger absolute values: below `infinite` they are finite,
at `infinite` they are infinite, above it they are no numbers. A finite magnitude stands for
`units m` times the smallest positive number, whose inverse is `one`.

Results:
* `ofBits_bits`, `bits_ofBits`: sign and magnitude hold exactly the 64 bits.
* `nearest_le_infinite`: rounding yields a finite or infinite magnitude.
-/

namespace ExplorerClient

/-- A double precision number. -/
structure Binary64 where
  /-- The sign bit. -/
  negative : Bool
  /-- The bits below the sign bit, as a natural number. -/
  magnitude : Nat
  magnitude_lt : magnitude < 0x8000000000000000
  deriving DecidableEq

namespace Binary64

/-! ## Bits -/

/-- The number with the given bits. -/
def ofBits (bits : UInt64) : Binary64 where
  negative := bits.toNat / 0x8000000000000000 == 1
  magnitude := bits.toNat % 0x8000000000000000
  magnitude_lt := Nat.mod_lt _ (by decide)

/-- The bits of the number. -/
def bits (x : Binary64) : UInt64 :=
  UInt64.ofNat ((if x.negative then 0x8000000000000000 else 0) + x.magnitude)

theorem ofBits_bits (x : Binary64) : ofBits x.bits = x := by
  obtain ⟨s, m, hm⟩ := x
  cases s
  · have h : m % 0x10000000000000000 = m := by omega
    simp only [ofBits, bits, Binary64.mk.injEq, Bool.false_eq_true, if_false, UInt64.toNat_ofNat',
      beq_eq_false_iff_ne]
    omega
  · simp only [ofBits, bits, Binary64.mk.injEq, if_true, UInt64.toNat_ofNat', beq_iff_eq]
    omega

theorem bits_ofBits (b : UInt64) : (ofBits b).bits = b := by
  have hb := b.toNat_lt
  apply UInt64.toNat_inj.mp
  simp only [ofBits, bits, UInt64.toNat_ofNat', beq_iff_eq]
  split <;> omega

/-! ## Magnitudes -/

/-- The magnitude of the infinite numbers. -/
def infinite : Nat := 0x7ff0000000000000

/-- The count of smallest positive numbers in 1. -/
def one : Nat := Nat.pow 2 1074

/-- The count of smallest positive numbers that a finite magnitude stands for: the low 52 bits are
the fraction, the bits above them the exponent. -/
def units (m : Nat) : Nat :=
  if m / 0x10000000000000 = 0 then m
  else (0x10000000000000 + m % 0x10000000000000) * Nat.pow 2 (m / 0x10000000000000 - 1)

/-- The quotient of `num` by `den` rounded to a whole number, on a tie to the even one. -/
def roundedDiv (num den : Nat) : Nat :=
  let quotient := num / den
  let rest := num % den
  if den < 2 * rest ∨ (den = 2 * rest ∧ quotient % 2 = 1) then quotient + 1 else quotient

/-- The magnitude nearest to `num / den` smallest positive numbers. -/
def nearest (num den : Nat) : Nat :=
  let shift := (num / den).log2 - 52
  min infinite (shift * 0x10000000000000 + roundedDiv num (den * Nat.pow 2 shift))

theorem nearest_le_infinite (num den : Nat) : nearest num den ≤ infinite :=
  Nat.min_le_left _ _

/-- The number of a sign and of a magnitude that is at most infinite. -/
def ofMagnitude (negative : Bool) (magnitude : Nat) : Binary64 where
  negative := negative
  magnitude := min infinite magnitude
  magnitude_lt := Nat.lt_of_le_of_lt (Nat.min_le_left _ _) (by decide)

/-! ## Classes and order -/

/-- The bit pattern that stands for the result of an operation without a result. -/
def nan : Binary64 := ⟨false, 0x7ff8000000000000, by decide⟩

/-- Zero with the sign bit clear. -/
def zero : Binary64 := ⟨false, 0, by decide⟩

/-- Is the pattern not a number? -/
def isNaN (x : Binary64) : Bool := infinite < x.magnitude

/-- Is the number infinite? -/
def isInfinite (x : Binary64) : Bool := x.magnitude == infinite

/-- Is the number a zero? -/
def isZero (x : Binary64) : Bool := x.magnitude == 0

/-- The place of the number in the order of all numbers, where the two zeros share one. -/
def rank (x : Binary64) : Int := if x.negative then -(x.magnitude : Int) else x.magnitude

/-- Is `x` at most `y`? Patterns that are not numbers stand in no order. -/
def le (x y : Binary64) : Bool := !x.isNaN && !y.isNaN && x.rank ≤ y.rank

/-- Is `x` less than `y`? -/
def lt (x y : Binary64) : Bool := !x.isNaN && !y.isNaN && x.rank < y.rank

/-! ## Operations -/

/-- The number nearest to a natural number. -/
def ofNat (n : Nat) : Binary64 := ofMagnitude false (nearest (n * one) 1)

/-- The product, rounded once. -/
def mul (x y : Binary64) : Binary64 :=
  if x.isNaN || y.isNaN then nan
  else if x.isInfinite || y.isInfinite then
    if x.isZero || y.isZero then nan else ofMagnitude (x.negative != y.negative) infinite
  else
    ofMagnitude (x.negative != y.negative) (nearest (units x.magnitude * units y.magnitude) one)

/-- The quotient by a positive natural number that is itself a double, rounded once. -/
def divNat (x : Binary64) (n : Nat) : Binary64 :=
  if x.isNaN || x.isInfinite then x
  else ofMagnitude x.negative (nearest (units x.magnitude) n)

/-- `r` times the `n`-th power of `a`, by repeated squaring with a rounding at every product. -/
def powTimes (r a : Binary64) (n : Nat) : Binary64 :=
  let r := if n % 2 = 1 then r.mul a else r
  if n / 2 = 0 then r else powTimes r (a.mul a) (n / 2)
termination_by n
decreasing_by omega

/-- The `n`-th power, by repeated squaring with a rounding at every product. -/
def pow (a : Binary64) (n : Nat) : Binary64 := powTimes (ofNat 1) a n

/-- The whole part of a finite number's absolute value. -/
def truncated (x : Binary64) : Nat := units x.magnitude / one

/-- The whole number nearest to `k` times the absolute value of a finite number, on a tie the even
one. -/
def scaledRound (x : Binary64) (k : Nat) : Nat := roundedDiv (units x.magnitude * k) one

/-! ## Powers of ten -/

/-- The number nearest to a power of ten. -/
def tenTo (exponent : Nat) : Binary64 := ofNat (Nat.pow 10 exponent)

/-- The quotient by a power of ten that is not infinite as a number. -/
def shrunk (x : Binary64) (exponent : Nat) : Binary64 := x.divNat (tenTo exponent).truncated

/-- `x` times ten to the power `exponent`, unless that is infinite. One multiplication or division
by the number nearest to the power does it where there is such a number, and a rounding comes with
each: the result need not be the nearest to `x` times the power itself. -/
def scaled? (x : Binary64) (exponent : Int) : Option Binary64 :=
  if exponent.natAbs ≤ 308 then
    if 0 ≤ exponent then
      let y := x.mul (tenTo exponent.toNat)
      if y.isInfinite then none else some y
    else some (x.shrunk exponent.natAbs)
  else if x.isZero then some x
  else if 0 ≤ exponent then none
  else scaled? (x.shrunk 308) (exponent + 308)
termination_by exponent.natAbs
decreasing_by omega

end Binary64

end ExplorerClient
