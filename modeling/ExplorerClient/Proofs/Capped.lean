import ExplorerClient.Backoff
import ExplorerClient.Proofs.Nearest

/-!
# The ceiling of the waits

The wait before the jitter is to stay within its ceiling. Where it is counted in nanoseconds it
does, since a double that is less than the double nearest to the ceiling is less than the ceiling.
Waits from two to the power 64 nanoseconds on are counted in seconds. On the way there and back
they are rounded twice more, which can take them past a ceiling that is hardly larger.

Results:
* `baseDelay_grown`: how a grown wait becomes a duration.
* `baseDelay_le_iff`: when the wait stays within its ceiling.
* `baseDelay_le_add`: how little it can miss it by.
* `delay_jittered`: the jitter only adds, and adds less than its bound.
* `delay_capped_iff`: where the wait and the jitter keep to their bounds together.
* `lingering_above`: a wait that does not.
-/

namespace ExplorerClient

namespace Binary64

/-! ## Whole numbers as doubles -/

theorem ofNat_rank (n : Nat) : (ofNat n).rank = (nearest (n * one) 1 : Nat) := by
  rw [← ofNat_magnitude]
  rfl

theorem ofNat_isNaN (n : Nat) : (ofNat n).isNaN = false := by
  rw [isNaN, ofNat_magnitude, decide_eq_false_iff_not]
  exact Nat.not_lt.mpr (nearest_le_infinite _ _)

theorem le_ofNat_iff {x : Binary64} {n : Nat} :
    (ofNat n).le x = true ↔ x.isNaN = false ∧ (ofNat n).rank ≤ x.rank := by
  simp [le, ofNat_isNaN]

theorem lt_ofNat_iff {x : Binary64} {n : Nat} :
    x.lt (ofNat n) = true ↔ x.isNaN = false ∧ x.rank < (ofNat n).rank := by
  simp [lt, ofNat_isNaN]

theorem le_zero_iff {x : Binary64} : x.le zero = true ↔ x.isNaN = false ∧ x.rank ≤ 0 := by
  have number : zero.isNaN = false := by decide
  have rank : zero.rank = 0 := by decide
  simp [le, number, rank]

/-- Whole numbers are in order as doubles. -/
theorem ofNat_rank_le {m n : Nat} (h : m ≤ n) : (ofNat m).rank ≤ (ofNat n).rank := by
  rw [ofNat_rank, ofNat_rank, Int.ofNat_le, ← ofNat_magnitude, ← ofNat_magnitude]
  exact ofNat_magnitude_le h

theorem magnitude_of_rank {x : Binary64} (positive : 0 < x.rank) :
    (x.magnitude : Int) = x.rank := by
  rw [rank] at positive ⊢
  split at positive
  · omega
  · rw [if_neg ‹_›]

/-- A positive double that is less than a whole number as a double is less than the number. -/
theorem units_lt {x : Binary64} {n : Nat} (positive : 0 < x.rank)
    (below : x.rank < (ofNat n).rank) : units x.magnitude < n * one := by
  refine Nat.lt_of_not_le fun above => ?_
  have rounded : nearest (n * one) 1 ≤ x.magnitude :=
    nearest_le Nat.one_pos (by rwa [Nat.mul_one])
  have own := magnitude_of_rank positive
  rw [ofNat_rank] at below
  omega

end Binary64

namespace Duration

/-- A sum lies between its first part and both parts together. -/
theorem add_nanos_bounds (d : Duration) (n : Nat) :
    d.nanos ≤ (d.add (ofNanos n)).nanos ∧ (d.add (ofNanos n)).nanos ≤ d.nanos + n := by
  have fits := d.nanos_lt
  rw [add, ofNanos, ofNanos]
  dsimp only
  omega

end Duration

namespace Backoff

open Binary64

/-! ## How a grown wait becomes a duration -/

/-- What a wait becomes by way of seconds, in nanoseconds. -/
def throughSeconds (x : Binary64) : Nat := (x.divNat 1000000000).scaledRound 1000000000

/-- How a grown wait becomes a duration. -/
inductive Grown (b : Backoff) (x : Binary64) : Duration → Prop where
  /-- It is no number, or not positive. -/
  | never (stops : x.isNaN = true ∨ x.rank ≤ 0) : Grown b x .zero
  /-- It reaches the ceiling. -/
  | full (reached : (ofNat b.max.nanos).rank ≤ x.rank) : Grown b x b.max
  /-- It is counted in nanoseconds. -/
  | nanos (positive : 0 < x.rank) (below : x.rank < (ofNat b.max.nanos).rank)
    (short : x.rank < (ofNat 0x10000000000000000).rank) : Grown b x (.ofNanos x.truncated)
  /-- It is counted in seconds. -/
  | seconds (number : x.isNaN = false) (below : x.rank < (ofNat b.max.nanos).rank)
    (long : (ofNat 0x10000000000000000).rank ≤ x.rank)
    (fits : throughSeconds x < 0x10000000000000000 * 1000000000) :
    Grown b x ⟨throughSeconds x, fits⟩
  /-- It is counted in seconds, and is too long for a duration. -/
  | lost (long : (ofNat 0x10000000000000000).rank ≤ x.rank)
    (tooLong : ¬ throughSeconds x < 0x10000000000000000 * 1000000000) : Grown b x b.max

theorem baseDelay_grown (b : Backoff) (attempt : Nat) :
    Grown b (b.scaled attempt) (b.baseDelay attempt) := by
  simp only [baseDelay]
  generalize b.scaled attempt = x
  by_cases number : x.isNaN = true
  · rw [if_pos (by rw [number, Bool.true_or])]
    exact .never (Or.inl number)
  have number : x.isNaN = false := Bool.eq_false_iff.mpr number
  rw [number, Bool.false_or]
  by_cases stops : x.rank ≤ 0
  · rw [if_pos (le_zero_iff.mpr ⟨number, stops⟩)]
    exact .never (Or.inr stops)
  rw [if_neg fun h => stops (le_zero_iff.mp h).2]
  by_cases reached : (ofNat b.max.nanos).rank ≤ x.rank
  · rw [if_pos (le_ofNat_iff.mpr ⟨number, reached⟩)]
    exact .full reached
  rw [if_neg fun h => reached (le_ofNat_iff.mp h).2, ofScaled?]
  by_cases short : x.rank < (ofNat 0x10000000000000000).rank
  · rw [if_pos (lt_ofNat_iff.mpr ⟨number, short⟩)]
    exact .nanos (Int.not_le.mp stops) (Int.not_le.mp reached) short
  rw [if_neg fun h => short (lt_ofNat_iff.mp h).2, Duration.ofNanos?]
  split
  · rename_i fits
    exact .seconds number (Int.not_le.mp reached) (Int.not_lt.mp short) fits
  · rename_i tooLong
    exact .lost (Int.not_lt.mp short) tooLong

/-! ## The wait and its ceiling -/

/-- Is a grown wait counted in seconds, less than its ceiling as a double, and more than its ceiling
once it is a duration? -/
structure Overshoots (b : Backoff) (attempt : Nat) : Prop where
  long : (ofNat 0x10000000000000000).le (b.scaled attempt) = true
  below : (b.scaled attempt).lt (ofNat b.max.nanos) = true
  above : b.max.nanos < throughSeconds (b.scaled attempt)
  fits : throughSeconds (b.scaled attempt) < 0x10000000000000000 * 1000000000

theorem long_rank_pos : 0 < (ofNat 0x10000000000000000).rank := by decide +kernel

theorem truncated_lt {x : Binary64} {n : Nat} (positive : 0 < x.rank)
    (below : x.rank < (ofNat n).rank) : x.truncated < n :=
  (Nat.div_lt_iff_lt_mul Binary64.one_pos).mpr (units_lt positive below)

/-- The wait stays within its ceiling unless it overshoots it. -/
theorem baseDelay_le_iff (b : Backoff) (attempt : Nat) :
    (b.baseDelay attempt).nanos ≤ b.max.nanos ↔ ¬ b.Overshoots attempt := by
  have grown := b.baseDelay_grown attempt
  generalize wait : b.baseDelay attempt = d at grown
  cases grown with
  | never stops =>
    refine ⟨fun _ passes => ?_, fun _ => Nat.zero_le _⟩
    obtain ⟨number, long⟩ := le_ofNat_iff.mp passes.long
    have positive := long_rank_pos
    rcases stops with none | stops
    · exact Bool.false_ne_true (number.symm.trans none)
    · omega
  | full reached =>
    refine ⟨fun _ passes => ?_, fun _ => Nat.le_refl _⟩
    have below := (lt_ofNat_iff.mp passes.below).2
    omega
  | nanos positive below short =>
    refine ⟨fun _ passes => ?_, fun _ => ?_⟩
    · have long := (le_ofNat_iff.mp passes.long).2
      omega
    · have less := truncated_lt positive below
      exact Nat.le_trans (Nat.min_le_left _ _) (Nat.le_of_lt less)
  | seconds number below long fits =>
    dsimp only
    refine ⟨fun within passes => Nat.not_lt.mpr within passes.above, fun kept => ?_⟩
    refine Nat.le_of_not_lt fun above => kept ?_
    exact ⟨le_ofNat_iff.mpr ⟨number, long⟩, lt_ofNat_iff.mpr ⟨number, below⟩, above, fits⟩
  | lost _ tooLong => exact ⟨fun _ passes => tooLong passes.fits, fun _ => Nat.le_refl _⟩

/-- A ceiling of at most two to the power 64 nanoseconds is never overshot. -/
theorem not_overshoots_of_short {b : Backoff} (short : b.max.nanos ≤ 0x10000000000000000)
    (attempt : Nat) : ¬ b.Overshoots attempt := by
  intro passes
  have long := (le_ofNat_iff.mp passes.long).2
  have below := (lt_ofNat_iff.mp passes.below).2
  have ordered := ofNat_rank_le short
  omega

theorem units_long :
    2 ^ 53 * 1000000000 ≤ units (nearest (0x10000000000000000 * one) 1) := by
  decide +kernel

theorem throughSeconds_mul_le {x : Binary64} (finite : x.magnitude < infinite) :
    2 * (throughSeconds x * one) ≤
      2 * (units (nearest (units x.magnitude) 1000000000) * 1000000000) + one := by
  rw [throughSeconds, scaledRound, divNat_magnitude finite]
  exact roundedDiv_mul_le _ _

/-- On its way through seconds a wait grows by less than one part in two to the power 52. -/
theorem throughSeconds_le {x : Binary64} {n : Nat}
    (long : (ofNat 0x10000000000000000).rank ≤ x.rank) (below : x.rank < (ofNat n).rank) :
    throughSeconds x ≤ n + n / 2 ^ 52 := by
  have positive : 0 < x.rank := Int.lt_of_lt_of_le long_rank_pos long
  have own := magnitude_of_rank positive
  have finite : x.magnitude < infinite := by
    have most := nearest_le_infinite (n * one) 1
    rw [ofNat_rank] at below
    omega
  have large : 2 ^ 53 * 1000000000 ≤ units x.magnitude := by
    refine Nat.le_trans units_long (units_le_units ?_)
    rw [ofNat_rank] at long
    omega
  have less := units_lt positive below
  have quotient := units_nearest_le (by decide) large
  have rounded := throughSeconds_mul_le finite
  have scaled : 2 ^ 54 * throughSeconds x * one < (2 * (2 ^ 53 + 1) * n + 2 ^ 53) * one := by
    rw [Nat.add_mul, Nat.mul_assoc, Nat.mul_assoc]
    omega
  have counts := Nat.lt_of_mul_lt_mul_right scaled
  omega

/-- The wait misses its ceiling by at most one part in two to the power 52. -/
theorem baseDelay_le_add (b : Backoff) (attempt : Nat) :
    (b.baseDelay attempt).nanos ≤ b.max.nanos + b.max.nanos / 2 ^ 52 := by
  have grown := b.baseDelay_grown attempt
  generalize b.baseDelay attempt = d at grown
  cases grown with
  | never => exact Nat.zero_le _
  | full => exact Nat.le_add_right _ _
  | nanos positive below =>
    have less := truncated_lt positive below
    calc min _ _ ≤ _ := Nat.min_le_left _ _
      _ ≤ b.max.nanos := Nat.le_of_lt less
      _ ≤ _ := Nat.le_add_right _ _
  | seconds _ below long =>
    have grows := throughSeconds_le long below
    dsimp only
    exact grows
  | lost => exact Nat.le_add_right _ _

/-! ## The jitter -/

/-- The jitter only adds to the wait, nothing where there is none and less than its bound where
there is some. -/
structure Jittered (b : Backoff) (attempt random : Nat) : Prop where
  least : (b.baseDelay attempt).nanos ≤ (b.delay attempt random).nanos
  still : b.maxJitter.nanos = 0 → b.delay attempt random = b.baseDelay attempt
  moved : 0 < b.maxJitter.nanos →
    (b.delay attempt random).nanos - (b.baseDelay attempt).nanos < b.maxJitter.nanos

theorem delay_jittered (b : Backoff) (attempt random : Nat) : b.Jittered attempt random := by
  obtain ⟨least, most⟩ := (b.baseDelay attempt).add_nanos_bounds (b.jitter random)
  refine ⟨least, fun none => delay_without_jitter none attempt random, fun some => ?_⟩
  have bounded : 0 < b.jitterBound := Nat.lt_min.mpr ⟨some, by decide⟩
  have less : b.jitter random < b.maxJitter.nanos :=
    Nat.lt_of_lt_of_le (jitter_lt bounded random) (Nat.min_le_left _ _)
  rw [delay]
  omega

/-- The wait keeps to its ceiling, and the jitter goes on top of it. -/
structure Capped (b : Backoff) (attempt random : Nat) : Prop extends
    b.Jittered attempt random where
  ceiling : (b.baseDelay attempt).nanos ≤ b.max.nanos
  total : (b.delay attempt random).nanos ≤ (b.max.add b.maxJitter).nanos

theorem delay_le_add {b : Backoff} {attempt : Nat}
    (ceiling : (b.baseDelay attempt).nanos ≤ b.max.nanos) (random : Nat) :
    (b.delay attempt random).nanos ≤ (b.max.add b.maxJitter).nanos := by
  have jitter : b.jitter random ≤ b.maxJitter.nanos := by
    rcases Nat.eq_zero_or_pos b.jitterBound with none | some
    · rw [jitter, if_pos none]
      exact Nat.zero_le _
    · exact Nat.le_trans (Nat.le_of_lt (jitter_lt some random)) (Nat.min_le_left _ _)
  simp only [delay, Duration.add, Duration.ofNanos]
  omega

/-- The jitter always only adds, and adds less than its bound. The wait before it keeps to its
ceiling, and the whole to the sum of the two, exactly where the wait does not overshoot. It never
does where the ceiling is at most two to the power 64 nanoseconds, and never by more than one part
in two to the power 52. -/
theorem delay_capped_iff (b : Backoff) (attempt random : Nat) :
    b.Jittered attempt random ∧
      (b.Capped attempt random ↔ ¬ b.Overshoots attempt) ∧
      (b.max.nanos ≤ 0x10000000000000000 → ¬ b.Overshoots attempt) ∧
      (b.baseDelay attempt).nanos ≤ b.max.nanos + b.max.nanos / 2 ^ 52 := by
  have jittered := b.delay_jittered attempt random
  refine ⟨jittered, ⟨fun capped => ?_, fun kept => ?_⟩,
    fun short => not_overshoots_of_short short attempt, b.baseDelay_le_add attempt⟩
  · exact (b.baseDelay_le_iff attempt).mp capped.ceiling
  · have ceiling := (b.baseDelay_le_iff attempt).mpr kept
    exact ⟨jittered, ceiling, delay_le_add ceiling random⟩

/-- A policy whose first wait is hardly shorter than its ceiling, which is more than a thousand
years. -/
def lingering : Backoff where
  initial := ⟨34360750186904399872, by decide⟩
  max := ⟨34360750186904401921, by decide⟩
  factor := .ofNat 1
  maxJitter := .zero

theorem scaled_lingering : lingering.scaled 0 = ofNat 34360750186904399872 := by
  rw [scaled, pow, powTimes]
  decide +kernel

/-- The wait ends above its ceiling, without any jitter. -/
theorem lingering_above :
    (lingering.baseDelay 0).nanos = 34360750186904403687 ∧ ¬ lingering.Capped 0 0 := by
  have wait : (lingering.baseDelay 0).nanos = 34360750186904403687 := by
    rw [baseDelay, scaled_lingering]
    decide +kernel
  refine ⟨wait, fun capped => ?_⟩
  have ceiling : (lingering.baseDelay 0).nanos ≤ 34360750186904401921 := capped.ceiling
  omega

end Backoff

end ExplorerClient
