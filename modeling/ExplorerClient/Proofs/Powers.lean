import ExplorerClient.Proofs.Capped

/-!
# Powers of numbers that are at least one

A power is computed by squaring, so that one power and the next are products of different numbers,
each rounded in its own way. Still the next power is never smaller. Where the exponents begin to
differ, the smaller one has a row of ones for its last binary digits, and the greater one a single
one followed by zeros: the product of the squares that belong to the row stays at most the next
square, since it is multiplied step by step by numbers no greater than the ones that this square is
made of. From there on both are multiplied alike.

Results:
* `mul_magnitude`: the product of two such numbers, which may be infinite.
* `mul_le_mul`, `le_mul_left`, `le_mul_right`: products keep the order and grow.
* `powTimes_le_succ`: one more in the exponent.
* `pow_le_pow`: powers grow with the exponent.
-/

namespace ExplorerClient.Binary64

/-! ## Numbers that are at least one -/

/-- Is the number at least one? It may be infinite. -/
structure Large (x : Binary64) : Prop where
  positive : x.negative = false
  least : (ofNat 1).magnitude ≤ x.magnitude
  number : x.magnitude ≤ infinite

theorem large_of_le {x : Binary64} (h : (ofNat 1).le x = true) : x.Large := by
  obtain ⟨number, least⟩ := le_ofNat_iff.mp h
  have one_positive : 0 < (ofNat 1).rank := by decide +kernel
  have positive : 0 < x.rank := Int.lt_of_lt_of_le one_positive least
  have same := magnitude_of_rank positive
  refine ⟨?_, ?_, Nat.le_of_not_lt (of_decide_eq_false number)⟩
  · cases sign : x.negative with
    | false => rfl
    | true =>
      rw [rank, if_pos sign] at positive
      omega
  · have own := magnitude_of_rank one_positive
    omega

theorem large_ofNat {n : Nat} (positive : 0 < n) : (ofNat n).Large where
  positive := rfl
  least := by
    have ordered := ofNat_rank_le positive
    rw [ofNat_rank, ofNat_rank, ← ofNat_magnitude, ← ofNat_magnitude] at ordered
    exact Int.ofNat_le.mp ordered
  number := by
    rw [ofNat_magnitude]
    exact nearest_le_infinite _ _

theorem units_one : units (ofNat 1).magnitude = one := by decide +kernel

namespace Large

variable {x y : Binary64}

theorem rank_eq (h : x.Large) : x.rank = x.magnitude := by
  rw [rank, h.positive]
  rfl

theorem isNaN_eq (h : x.Large) : x.isNaN = false := decide_eq_false (Nat.not_lt.mpr h.number)

theorem eq_of_magnitude (hx : x.Large) (hy : y.Large) (same : x.magnitude = y.magnitude) :
    x = y := by
  have signs : x.negative = y.negative := hx.positive.trans hy.positive.symm
  cases x
  cases y
  simp_all

theorem one_le_units (h : x.Large) : one ≤ units x.magnitude := by
  rw [← units_one]
  exact units_le_units h.least

theorem isZero_eq (h : x.Large) : x.isZero = false := by
  refine beq_eq_false_iff_ne.mpr fun none => ?_
  have units_positive := h.one_le_units
  rw [none, show units 0 = 0 from rfl] at units_positive
  exact absurd units_positive (Nat.not_le.mpr one_pos)

end Large

/-! ## Products -/

section

variable {x y x' y' : Binary64}

/-- The product is rounded in the same way where a factor is infinite. -/
theorem mul_magnitude (hx : x.Large) (hy : y.Large) :
    (x.mul y).magnitude = nearest (units x.magnitude * units y.magnitude) one := by
  rw [mul, hx.isNaN_eq, hy.isNaN_eq, hx.isZero_eq, hy.isZero_eq]
  have most := nearest_le_infinite (units x.magnitude * units y.magnitude) one
  by_cases unbounded : (x.isInfinite || y.isInfinite) = true
  · have reached : units infinite * one ≤ units x.magnitude * units y.magnitude := by
      rcases Bool.or_eq_true .. ▸ unbounded with first | second
      · rw [beq_iff_eq.mp first]
        exact Nat.mul_le_mul_left _ hy.one_le_units
      · rw [beq_iff_eq.mp second, Nat.mul_comm (units x.magnitude)]
        exact Nat.mul_le_mul_left _ hx.one_le_units
    have least := le_nearest one_pos (Nat.le_refl infinite) reached
    simp only [unbounded, Bool.or_false, Bool.false_eq_true, if_false, if_true]
    exact Nat.le_antisymm (Nat.le_trans (Nat.min_le_left _ _) least) (Nat.le_min.mpr ⟨most, most⟩)
  · simp only [Bool.eq_false_iff.mpr unbounded, Bool.or_false, Bool.false_eq_true, if_false]
    exact Nat.min_eq_right most

theorem mul_le_mul (hx : x.Large) (hy : y.Large) (hx' : x'.Large) (hy' : y'.Large)
    (first : x.magnitude ≤ x'.magnitude) (second : y.magnitude ≤ y'.magnitude) :
    (x.mul y).magnitude ≤ (x'.mul y').magnitude := by
  rw [mul_magnitude hx hy, mul_magnitude hx' hy']
  refine nearest_le_nearest one_pos one_pos (Nat.mul_le_mul_right one ?_)
  exact Nat.mul_le_mul (units_le_units first) (units_le_units second)

theorem le_mul_right (hx : x.Large) (hy : y.Large) : x.magnitude ≤ (x.mul y).magnitude := by
  rw [mul_magnitude hx hy]
  exact le_nearest one_pos hx.number (Nat.mul_le_mul_left _ hy.one_le_units)

theorem le_mul_left (hx : x.Large) (hy : y.Large) : y.magnitude ≤ (x.mul y).magnitude := by
  rw [mul_magnitude hx hy, Nat.mul_comm]
  exact le_nearest one_pos hy.number (Nat.mul_le_mul_left _ hx.one_le_units)

theorem Large.mul (hx : x.Large) (hy : y.Large) : (x.mul y).Large where
  positive := by
    rw [Binary64.mul, hx.isNaN_eq, hy.isNaN_eq, hx.isZero_eq, hy.isZero_eq, hx.positive,
      hy.positive]
    simp only [Bool.or_false, Bool.false_eq_true, if_false]
    split <;> rfl
  least := Nat.le_trans hx.least (le_mul_right hx hy)
  number := by
    rw [mul_magnitude hx hy]
    exact nearest_le_infinite _ _

end

/-! ## Powers -/

theorem powTimes_zero (r a : Binary64) : powTimes r a 0 = r := by
  rw [powTimes]
  rfl

/-- The last binary digit of the exponent. -/
theorem powTimes_halve (r a : Binary64) (n : Nat) :
    powTimes r a n = powTimes (if n % 2 = 1 then r.mul a else r) (a.mul a) (n / 2) := by
  rw [powTimes]
  by_cases last : n / 2 = 0
  · rw [if_pos last, last, powTimes_zero]
  · rw [if_neg last]

theorem powTimes_even (r a : Binary64) {n : Nat} (even : n % 2 = 0) :
    powTimes r a n = powTimes r (a.mul a) (n / 2) := by
  rw [powTimes_halve, if_neg (by omega)]

theorem powTimes_odd (r a : Binary64) {n : Nat} (odd : n % 2 = 1) :
    powTimes r a n = powTimes (r.mul a) (a.mul a) (n / 2) := by
  rw [powTimes_halve, if_pos odd]

section

variable {r r' a : Binary64}

theorem Large.powTimes (hr : r.Large) (ha : a.Large) (n : Nat) : (powTimes r a n).Large := by
  induction n using Nat.strongRecOn generalizing r a with
  | ind n ih =>
    rcases Nat.eq_zero_or_pos n with rfl | positive
    · rwa [powTimes_zero]
    · have less : n / 2 < n := by omega
      rcases Nat.mod_two_eq_zero_or_one n with even | odd
      · rw [powTimes_even r a even]
        exact ih (n / 2) less hr (ha.mul ha)
      · rw [powTimes_odd r a odd]
        exact ih (n / 2) less (hr.mul ha) (ha.mul ha)

theorem powTimes_le_powTimes (hr : r.Large) (hr' : r'.Large) (ha : a.Large)
    (first : r.magnitude ≤ r'.magnitude) (n : Nat) :
    (powTimes r a n).magnitude ≤ (powTimes r' a n).magnitude := by
  induction n using Nat.strongRecOn generalizing r r' a with
  | ind n ih =>
    rcases Nat.eq_zero_or_pos n with rfl | positive
    · rwa [powTimes_zero, powTimes_zero]
    · have less : n / 2 < n := by omega
      rcases Nat.mod_two_eq_zero_or_one n with even | odd
      · rw [powTimes_even r a even, powTimes_even r' a even]
        exact ih (n / 2) less hr hr' (ha.mul ha) first
      · rw [powTimes_odd r a odd, powTimes_odd r' a odd]
        exact ih (n / 2) less (hr.mul ha) (hr'.mul ha) (ha.mul ha)
          (mul_le_mul hr ha hr' ha first (Nat.le_refl _))

/-- What the last digits of the smaller exponent have contributed is at most the square that the
greater exponent takes instead. -/
theorem powTimes_le_succ (hr : r.Large) (ha : a.Large) (below : r.magnitude ≤ a.magnitude)
    (n : Nat) : (powTimes r a n).magnitude ≤ (powTimes (ofNat 1) a (n + 1)).magnitude := by
  have start : (ofNat 1).Large := large_ofNat Nat.one_pos
  induction n using Nat.strongRecOn generalizing r a with
  | ind n ih =>
    rcases Nat.mod_two_eq_zero_or_one n with even | odd
    · -- the exponents differ in this digit only
      have rest : (n + 1) / 2 = n / 2 := by omega
      have taken : r.magnitude ≤ ((ofNat 1).mul a).magnitude :=
        Nat.le_trans below (le_mul_left start ha)
      rw [powTimes_even r a even, powTimes_odd (ofNat 1) a (by omega), rest]
      exact powTimes_le_powTimes hr (start.mul ha) (ha.mul ha) taken (n / 2)
    · have rest : (n + 1) / 2 = n / 2 + 1 := by omega
      rw [powTimes_odd r a odd, powTimes_even (ofNat 1) a (by omega), rest]
      exact ih (n / 2) (by omega) (hr.mul ha) (ha.mul ha)
        (mul_le_mul hr ha ha ha below (Nat.le_refl _))

theorem Large.pow (ha : a.Large) (n : Nat) : (a.pow n).Large :=
  (large_ofNat Nat.one_pos).powTimes ha n

theorem pow_le_pow (ha : a.Large) {m n : Nat} (h : m ≤ n) :
    (a.pow m).magnitude ≤ (a.pow n).magnitude := by
  induction h with
  | refl => exact Nat.le_refl _
  | @step n _ ih =>
    exact Nat.le_trans ih (powTimes_le_succ (large_ofNat Nat.one_pos) ha ha.least n)

end

end ExplorerClient.Binary64
