import ExplorerClient.Binary64
import Mathlib.Algebra.GroupWithZero.Nat

/-!
# Rounding to double precision

The finite magnitudes are the steps of grids. On the grid `s` a step is `2 ^ s` units wide; the
grids above the first begin at the step `2 ^ 52`, and each ends at the step `2 ^ 53`, which is where
the next begins. A quotient is rounded on the grid that it lies on.

Results:
* `units_step`: what a step of a grid stands for.
* `units_le_units`: larger magnitudes stand for more.
* `nearest_step`: a quotient is rounded to a whole number of steps.
* `nearest_le`, `le_nearest`, `nearest_le_nearest`: rounding passes no magnitude and keeps the
  order.
* `units_nearest_le`: rounding adds at most one part in `2 ^ 53`.
* `scaled?_finite`: what is scaled by a power of ten is finite.
-/

namespace ExplorerClient.Binary64

/-! ## Rounding to whole numbers -/

theorem roundedDiv_cases (num den : Nat) :
    (roundedDiv num den = num / den ∧ 2 * (num % den) ≤ den) ∨
      (roundedDiv num den = num / den + 1 ∧ den ≤ 2 * (num % den)) := by
  simp only [roundedDiv]
  split
  · exact Or.inr ⟨rfl, by omega⟩
  · exact Or.inl ⟨rfl, by omega⟩

theorem roundedDiv_mul_le (num den : Nat) :
    2 * (roundedDiv num den * den) ≤ 2 * num + den := by
  have parts := Nat.div_add_mod num den
  rw [Nat.mul_comm] at parts
  rcases roundedDiv_cases num den with ⟨rounded, -⟩ | ⟨rounded, half⟩
  · rw [rounded]
    omega
  · rw [rounded, Nat.add_one_mul (num / den)]
    omega

theorem roundedDiv_le {num den k : Nat} (positive : 0 < den) (h : num ≤ k * den) :
    roundedDiv num den ≤ k := by
  have error := roundedDiv_mul_le num den
  refine Nat.le_of_not_lt fun above => ?_
  have passed : (k + 1) * den ≤ roundedDiv num den * den := Nat.mul_le_mul_right den above
  rw [Nat.add_one_mul k] at passed
  omega

theorem le_roundedDiv {num den k : Nat} (positive : 0 < den) (h : k * den ≤ num) :
    k ≤ roundedDiv num den := by
  have whole : k ≤ num / den := (Nat.le_div_iff_mul_le positive).mpr h
  rcases roundedDiv_cases num den with ⟨rounded, -⟩ | ⟨rounded, -⟩ <;> omega

theorem mul_parts (num den k : Nat) : num * k = num / den * (den * k) + num % den * k := by
  calc num * k = (den * (num / den) + num % den) * k := by rw [Nat.div_add_mod]
    _ = num / den * (den * k) + num % den * k := by
      rw [Nat.add_mul, Nat.mul_comm den, Nat.mul_assoc]

/-- What is at least half stays at least half where the rest is a greater part of the whole. -/
theorem half_of_rests {rest den rest' den' : Nat} (positive : 0 < den) (positive' : 0 < den')
    (h : rest * den' ≤ rest' * den) :
    (den ≤ 2 * rest → den' ≤ 2 * rest') ∧ (den < 2 * rest → den' < 2 * rest') := by
  have twice : 2 * rest * den' ≤ 2 * rest' * den := by
    rw [Nat.mul_assoc, Nat.mul_assoc]
    exact Nat.mul_le_mul_left 2 h
  constructor
  · intro half
    refine Nat.le_of_mul_le_mul_right ?_ positive
    calc den' * den = den * den' := Nat.mul_comm ..
      _ ≤ 2 * rest * den' := Nat.mul_le_mul_right den' half
      _ ≤ 2 * rest' * den := twice
  · intro more
    refine Nat.lt_of_mul_lt_mul_right (a := den) ?_
    calc den' * den = den * den' := Nat.mul_comm ..
      _ < 2 * rest * den' := Nat.mul_lt_mul_of_pos_right more positive'
      _ ≤ 2 * rest' * den := twice

theorem roundedDiv_le_roundedDiv {num den num' den' : Nat} (positive : 0 < den)
    (positive' : 0 < den') (h : num * den' ≤ num' * den) :
    roundedDiv num den ≤ roundedDiv num' den' := by
  have wholes : num / den ≤ num' / den' := by
    rw [Nat.le_div_iff_mul_le positive']
    refine Nat.le_of_mul_le_mul_right ?_ positive
    calc num / den * den' * den = num / den * den * den' := Nat.mul_right_comm ..
      _ ≤ num * den' := Nat.mul_le_mul_right den' (Nat.div_mul_le_self num den)
      _ ≤ num' * den := h
  rcases Nat.lt_or_ge (num / den) (num' / den') with before | after
  · rcases roundedDiv_cases num den with ⟨rounded, -⟩ | ⟨rounded, -⟩ <;>
      rcases roundedDiv_cases num' den' with ⟨rounded', -⟩ | ⟨rounded', -⟩ <;> omega
  · -- with the same whole the rests are in order, and what rounds the first up rounds the second up
    have same : num / den = num' / den' := Nat.le_antisymm wholes after
    have rests : num % den * den' ≤ num' % den' * den := by
      have parts := mul_parts num den den'
      have parts' := mul_parts num' den' den
      rw [Nat.mul_comm den' den, ← same] at parts'
      omega
    obtain ⟨half, more⟩ := half_of_rests positive positive' rests
    simp only [roundedDiv, same]
    split
    · rename_i rounds
      have rounds' : den' < 2 * (num' % den') ∨
          (den' = 2 * (num' % den') ∧ num' / den' % 2 = 1) := by
        omega
      exact Nat.le_of_eq (if_pos rounds').symm
    · split <;> omega

/-! ## Grids -/

/-- Is there a step `r` on the grid `s`? -/
def IsStep (s r : Nat) : Prop := r ≤ 2 ^ 53 ∧ (s = 0 ∨ 2 ^ 52 ≤ r)

/-- The magnitude of a step of a grid. -/
def step (s r : Nat) : Nat := s * 2 ^ 52 + r

theorem units_step {s r : Nat} (h : IsStep s r) : units (step s r) = r * 2 ^ s := by
  obtain ⟨most, least⟩ := h
  have power : Nat.pow 2 (s + 1) = 2 * 2 ^ s := Nat.pow_succ'
  unfold units step
  rcases Nat.lt_or_ge r (2 ^ 52) with small | large
  · obtain rfl : s = 0 := by omega
    rw [if_pos (by omega)]
    omega
  · rcases Nat.lt_or_ge r (2 ^ 53) with inside | last
    · have grid : (s * 2 ^ 52 + r) / 0x10000000000000 = s + 1 := by omega
      have rest : (s * 2 ^ 52 + r) % 0x10000000000000 = r - 2 ^ 52 := by omega
      rw [grid, rest, if_neg (by omega), Nat.add_sub_cancel,
        show 0x10000000000000 + (r - 2 ^ 52) = r by omega]
      rfl
    · obtain rfl : r = 2 ^ 53 := by omega
      have grid : (s * 2 ^ 52 + 2 ^ 53) / 0x10000000000000 = s + 2 := by omega
      have rest : (s * 2 ^ 52 + 2 ^ 53) % 0x10000000000000 = 0 := by omega
      rw [grid, rest, if_neg (by omega), show s + 2 - 1 = s + 1 by omega, power]
      omega

theorem exists_step (m : Nat) : ∃ s r, IsStep s r ∧ r < 2 ^ 53 ∧ m = step s r := by
  refine ⟨m / 2 ^ 52 - 1, m - (m / 2 ^ 52 - 1) * 2 ^ 52, ⟨?_, ?_⟩, ?_, ?_⟩
  · omega
  · omega
  · omega
  · rw [step]
    omega

/-- A later grid reaches further, and so does a later step of the same grid. -/
theorem units_le_units {m n : Nat} (h : m ≤ n) : units m ≤ units n := by
  obtain ⟨s, r, own, inside, rfl⟩ := exists_step m
  obtain ⟨s', r', own', inside', rfl⟩ := exists_step n
  rw [units_step own, units_step own']
  rcases Nat.lt_trichotomy s s' with before | rfl | behind
  · calc r * 2 ^ s ≤ 2 ^ 53 * 2 ^ s := Nat.mul_le_mul_right _ own.1
      _ = 2 ^ 52 * 2 ^ (s + 1) := by rw [Nat.pow_succ']; omega
      _ ≤ 2 ^ 52 * 2 ^ s' := Nat.mul_le_mul_left _ (Nat.pow_le_pow_right (by omega) before)
      _ ≤ r' * 2 ^ s' := Nat.mul_le_mul_right _ (own'.2.resolve_left (by omega))
  · rw [step, step] at h
    exact Nat.mul_le_mul_right _ (by omega)
  · have least := own.2.resolve_left (by omega)
    rw [step, step] at h
    omega

/-! ## Rounding to a magnitude -/

/-- Does the quotient lie on the grid `s`? -/
def OnGrid (s num den : Nat) : Prop :=
  num < 2 ^ (53 + s) * den ∧ (s = 0 ∨ 2 ^ (52 + s) * den ≤ num)

/-- The grid that a quotient lies on. -/
def grid (num den : Nat) : Nat := (num / den).log2 - 52

theorem onGrid_grid (num : Nat) {den : Nat} (positive : 0 < den) :
    OnGrid (grid num den) num den := by
  have most : num / den < 2 ^ (53 + grid num den) := by
    have above := Nat.lt_log2_self (n := num / den)
    refine Nat.lt_of_lt_of_le above (Nat.pow_le_pow_right (by omega) ?_)
    rw [grid]
    omega
  refine ⟨(Nat.div_lt_iff_lt_mul positive).mp most, ?_⟩
  rcases Nat.eq_zero_or_pos (grid num den) with first | later
  · exact Or.inl first
  · refine Or.inr ((Nat.le_div_iff_mul_le positive).mp ?_)
    have large : num / den ≠ 0 := by
      intro none
      rw [grid, none] at later
      exact absurd later (by decide)
    rw [grid] at later ⊢
    rw [show 52 + ((num / den).log2 - 52) = (num / den).log2 by omega]
    exact Nat.log2_self_le large

/-- The number of steps that a quotient is rounded to, on its grid. -/
def steps (num den : Nat) : Nat := roundedDiv num (den * 2 ^ grid num den)

theorem isStep_steps (num : Nat) {den : Nat} (positive : 0 < den) :
    IsStep (grid num den) (steps num den) := by
  have width : 0 < den * 2 ^ grid num den := Nat.mul_pos positive (Nat.two_pow_pos _)
  obtain ⟨below, above⟩ := onGrid_grid num positive
  have scaled (k : Nat) : 2 ^ (k + grid num den) * den = 2 ^ k * (den * 2 ^ grid num den) := by
    rw [Nat.pow_add, Nat.mul_assoc, Nat.mul_comm den]
  rw [scaled] at below above
  exact ⟨roundedDiv_le width (Nat.le_of_lt below),
    above.imp_right fun above => le_roundedDiv width above⟩

theorem nearest_step (num den : Nat) :
    nearest num den = min infinite (step (grid num den) (steps num den)) := rfl

/-- A quotient is not rounded past a magnitude. -/
theorem nearest_le {m num den : Nat} (positive : 0 < den) (h : num ≤ units m * den) :
    nearest num den ≤ m := by
  obtain ⟨s, r, own, inside, rfl⟩ := exists_step m
  obtain ⟨-, above⟩ := onGrid_grid num positive
  have rounded := isStep_steps num positive
  rw [units_step own] at h
  rw [nearest_step]
  refine Nat.le_trans (Nat.min_le_right _ _) ?_
  rcases Nat.lt_trichotomy (grid num den) s with before | same | behind
  · have least := own.2.resolve_left (by omega)
    have most := rounded.1
    rw [step, step]
    omega
  · have most : steps num den ≤ r := by
      refine roundedDiv_le (Nat.mul_pos positive (Nat.two_pow_pos _)) ?_
      rw [same]
      calc num ≤ r * 2 ^ s * den := h
        _ = r * (den * 2 ^ s) := by rw [Nat.mul_assoc, Nat.mul_comm den]
    rw [step, step, same]
    omega
  · -- the quotient would lie on an earlier grid
    have above := above.resolve_left (by omega)
    have below : r * 2 ^ s * den < 2 ^ (52 + grid num den) * den := by
      refine Nat.mul_lt_mul_of_pos_right ?_ positive
      calc r * 2 ^ s < 2 ^ 53 * 2 ^ s := Nat.mul_lt_mul_of_pos_right inside (Nat.two_pow_pos _)
        _ = 2 ^ (53 + s) := (Nat.pow_add ..).symm
        _ ≤ 2 ^ (52 + grid num den) := Nat.pow_le_pow_right (by omega) (by omega)
    omega

/-- Nor is a quotient rounded below a magnitude that it reaches. -/
theorem le_nearest {m num den : Nat} (positive : 0 < den) (proper : m ≤ infinite)
    (h : units m * den ≤ num) : m ≤ nearest num den := by
  obtain ⟨s, r, own, inside, rfl⟩ := exists_step m
  obtain ⟨below, -⟩ := onGrid_grid num positive
  have rounded := isStep_steps num positive
  rw [units_step own] at h
  rw [nearest_step]
  refine Nat.le_min.mpr ⟨proper, ?_⟩
  rcases Nat.lt_trichotomy s (grid num den) with before | same | behind
  · have least := rounded.2.resolve_left (by omega)
    rw [step, step]
    omega
  · have least : r ≤ steps num den := by
      refine le_roundedDiv (Nat.mul_pos positive (Nat.two_pow_pos _)) ?_
      rw [← same]
      calc r * (den * 2 ^ s) = r * 2 ^ s * den := by rw [Nat.mul_assoc, Nat.mul_comm den]
        _ ≤ num := h
    rw [step, step, same]
    omega
  · -- the quotient would lie on a later grid
    have least := own.2.resolve_left (by omega)
    have above : 2 ^ (53 + grid num den) * den ≤ r * 2 ^ s * den := by
      refine Nat.mul_le_mul_right den ?_
      calc 2 ^ (53 + grid num den) ≤ 2 ^ (52 + s) := Nat.pow_le_pow_right (by omega) (by omega)
        _ = 2 ^ 52 * 2 ^ s := Nat.pow_add ..
        _ ≤ r * 2 ^ s := Nat.mul_le_mul_right _ least
    omega

theorem grid_le_grid {num den num' den' : Nat} (positive : 0 < den) (positive' : 0 < den')
    (h : num * den' ≤ num' * den) : grid num den ≤ grid num' den' := by
  obtain ⟨-, above⟩ := onGrid_grid num positive
  obtain ⟨below', -⟩ := onGrid_grid num' positive'
  rcases above with first | above
  · rw [first]
    exact Nat.zero_le _
  · have crossed : 2 ^ (52 + grid num den) * (den * den') <
        2 ^ (53 + grid num' den') * (den * den') :=
      calc 2 ^ (52 + grid num den) * (den * den') = 2 ^ (52 + grid num den) * den * den' :=
            (Nat.mul_assoc ..).symm
        _ ≤ num * den' := Nat.mul_le_mul_right den' above
        _ ≤ num' * den := h
        _ < 2 ^ (53 + grid num' den') * den' * den := Nat.mul_lt_mul_of_pos_right below' positive
        _ = 2 ^ (53 + grid num' den') * (den * den') := by rw [Nat.mul_assoc, Nat.mul_comm den']
    have powers := Nat.lt_of_mul_lt_mul_right crossed
    have := (Nat.pow_lt_pow_iff_right (by omega)).mp powers
    omega

/-- Rounding keeps the order of quotients. -/
theorem nearest_le_nearest {num den num' den' : Nat} (positive : 0 < den) (positive' : 0 < den')
    (h : num * den' ≤ num' * den) : nearest num den ≤ nearest num' den' := by
  have most := (isStep_steps num positive).1
  have least' := (isStep_steps num' positive').2
  rw [nearest_step, nearest_step]
  refine Nat.le_min.mpr ⟨Nat.min_le_left _ _, Nat.le_trans (Nat.min_le_right _ _) ?_⟩
  rw [step, step]
  rcases Nat.lt_or_eq_of_le (grid_le_grid positive positive' h) with before | same
  · omega
  · have rounded : steps num den ≤ steps num' den' := by
      have width := Nat.two_pow_pos (grid num' den')
      rw [steps, steps, same]
      refine roundedDiv_le_roundedDiv (Nat.mul_pos positive width) (Nat.mul_pos positive' width) ?_
      rw [← Nat.mul_assoc, ← Nat.mul_assoc]
      exact Nat.mul_le_mul_right _ h
    omega

/-- Rounding adds at most one part in `2 ^ 53` to a quotient that is not small. -/
theorem units_nearest_le {num den : Nat} (positive : 0 < den) (large : 2 ^ 53 * den ≤ num) :
    2 ^ 53 * (units (nearest num den) * den) ≤ (2 ^ 53 + 1) * num := by
  obtain ⟨-, above⟩ := onGrid_grid num positive
  have most : units (nearest num den) ≤ steps num den * 2 ^ grid num den := by
    rw [← units_step (isStep_steps num positive), nearest_step]
    exact units_le_units (Nat.min_le_right _ _)
  have width : 2 ^ 52 * (den * 2 ^ grid num den) ≤ num := by
    rcases above with first | later
    · rw [first]
      omega
    · rwa [Nat.pow_add, Nat.mul_assoc, Nat.mul_comm _ den] at later
  have error := roundedDiv_mul_le num (den * 2 ^ grid num den)
  have scaled : units (nearest num den) * den ≤ steps num den * (den * 2 ^ grid num den) :=
    calc units (nearest num den) * den ≤ steps num den * 2 ^ grid num den * den :=
          Nat.mul_le_mul_right den most
      _ = steps num den * (den * 2 ^ grid num den) := by rw [Nat.mul_assoc, Nat.mul_comm den]
  rw [steps] at scaled
  omega

/-! ## Whole numbers as doubles -/

theorem one_pos : 0 < one := by decide +kernel

theorem ofNat_magnitude (n : Nat) : (ofNat n).magnitude = nearest (n * one) 1 :=
  Nat.min_eq_right (nearest_le_infinite _ _)

theorem ofNat_magnitude_le {m n : Nat} (h : m ≤ n) : (ofNat m).magnitude ≤ (ofNat n).magnitude := by
  rw [ofNat_magnitude, ofNat_magnitude]
  refine nearest_le_nearest Nat.one_pos Nat.one_pos ?_
  rw [Nat.mul_one, Nat.mul_one]
  exact Nat.mul_le_mul_right one h

theorem isNaN_of_finite {x : Binary64} (finite : x.magnitude < infinite) : x.isNaN = false :=
  decide_eq_false (Nat.not_lt.mpr (Nat.le_of_lt finite))

theorem isInfinite_of_finite {x : Binary64} (finite : x.magnitude < infinite) :
    x.isInfinite = false :=
  beq_eq_false_iff_ne.mpr (Nat.ne_of_lt finite)

theorem divNat_magnitude {x : Binary64} {n : Nat} (finite : x.magnitude < infinite) :
    (x.divNat n).magnitude = nearest (units x.magnitude) n := by
  rw [divNat, isNaN_of_finite finite, isInfinite_of_finite finite]
  exact Nat.min_eq_right (nearest_le_infinite _ _)

/-! ## Powers of ten -/

theorem tenTo_magnitude_le {m n : Nat} (h : m ≤ n) : (tenTo m).magnitude ≤ (tenTo n).magnitude :=
  ofNat_magnitude_le (Nat.pow_le_pow_right (by decide) h)

theorem tenTo_finite {exponent : Nat} (h : exponent ≤ 308) :
    (tenTo exponent).magnitude < infinite := by
  have last : (tenTo 308).magnitude < infinite := by decide +kernel
  exact Nat.lt_of_le_of_lt (tenTo_magnitude_le h) last

theorem units_tenTo_zero : units (tenTo 0).magnitude = one := by decide +kernel

theorem tenTo_truncated_pos (exponent : Nat) : 0 < (tenTo exponent).truncated := by
  refine Nat.div_pos ?_ one_pos
  calc one = units (tenTo 0).magnitude := units_tenTo_zero.symm
    _ ≤ units (tenTo exponent).magnitude :=
      units_le_units (tenTo_magnitude_le (Nat.zero_le exponent))

/-- Division by a power of ten does not make a number larger. -/
theorem shrunk_magnitude_le {x : Binary64} (finite : x.magnitude < infinite) (exponent : Nat) :
    (x.shrunk exponent).magnitude ≤ x.magnitude := by
  have positive := tenTo_truncated_pos exponent
  rw [shrunk, divNat_magnitude finite]
  exact nearest_le positive (Nat.le_mul_of_pos_right _ positive)

theorem mul_finite {x y : Binary64} (hx : x.magnitude < infinite) (hy : y.magnitude < infinite)
    (h : (x.mul y).isInfinite = false) : (x.mul y).magnitude < infinite := by
  refine Nat.lt_of_le_of_ne ?_ (beq_eq_false_iff_ne.mp h)
  rw [mul, isNaN_of_finite hx, isNaN_of_finite hy, isInfinite_of_finite hx,
    isInfinite_of_finite hy]
  exact Nat.min_le_left _ _

/-- What is scaled by a power of ten is finite if it has a value at all. -/
theorem scaled?_finite {x y : Binary64} {exponent : Int} (finite : x.magnitude < infinite)
    (h : x.scaled? exponent = some y) : y.magnitude < infinite := by
  fun_induction scaled? x exponent with
  | case1 x exponent near more grown passed => cases h
  | case2 x exponent near more grown fits =>
    rw [← Option.some.inj h]
    exact mul_finite finite (tenTo_finite (by omega)) (by simpa using fits)
  | case3 x exponent near less =>
    cases h
    exact Nat.lt_of_le_of_lt (shrunk_magnitude_le finite _) finite
  | case4 x exponent far zero =>
    cases h
    exact finite
  | case5 x exponent far some more => cases h
  | case6 x exponent far some less ih =>
    exact ih (Nat.lt_of_le_of_lt (shrunk_magnitude_le finite _) finite) h

end ExplorerClient.Binary64
