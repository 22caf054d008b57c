import ExplorerClient.Proofs.Powers

/-!
# Waits that rise to their ceiling

With a factor of at least one the grown wait never gets shorter, since neither the powers of the
factor nor their products with the first wait do. Turning it into a duration keeps the order, also
where it begins to be counted in seconds. A wait that makes exactly the ceiling is counted in
seconds only if the double behind it has reached the ceiling, so the waits behind it make the
ceiling too.

Results:
* `scaled_le_scaled`: the grown wait does not get shorter.
* `throughSeconds_le_throughSeconds`, `long_le_throughSeconds`: counting in seconds keeps the order.
* `throughSeconds_lt`: two doubles below the ceiling a wait is below it in seconds too.
* `baseDelay_rises`: the wait never decreases below its ceiling, and never leaves it.
-/

namespace ExplorerClient.Backoff

open Binary64

variable {b : Backoff}

/-! ## The grown wait -/

/-- Nothing grows to nothing, or to no number. -/
theorem baseDelay_of_none (none : b.initial.nanos = 0) (grows : b.factor.Large) (attempt : Nat) :
    b.baseDelay attempt = .zero := by
  have power := grows.pow (min attempt 0x7fffffff)
  have start : ofNat b.initial.nanos = zero := by
    rw [none]
    decide +kernel
  have number : zero.isNaN = false := by decide
  have bounded : zero.isInfinite = false := by decide
  have nothing : zero.isZero = true := by decide
  rw [baseDelay, scaled, start, mul, power.isNaN_eq, number, bounded, nothing]
  cases (b.factor.pow (min attempt 0x7fffffff)).isInfinite with
  | true => rfl
  | false =>
    have rounded : nearest 0 one = 0 := by decide +kernel
    rw [power.positive, show units zero.magnitude = 0 from rfl, Nat.zero_mul, rounded]
    rfl

theorem large_scaled (some : 0 < b.initial.nanos) (grows : b.factor.Large) (attempt : Nat) :
    (b.scaled attempt).Large :=
  (large_ofNat some).mul (grows.pow _)

theorem scaled_le_scaled (some : 0 < b.initial.nanos) (grows : b.factor.Large) {i j : Nat}
    (later : i ≤ j) : (b.scaled i).magnitude ≤ (b.scaled j).magnitude := by
  have start := large_ofNat some
  have powers : (b.factor.pow (min i 0x7fffffff)).magnitude ≤
      (b.factor.pow (min j 0x7fffffff)).magnitude := pow_le_pow grows (by omega)
  exact mul_le_mul start (grows.pow _) start (grows.pow _) (Nat.le_refl _) powers

/-! ## Counting in seconds -/

theorem throughSeconds_eq {x : Binary64} (finite : x.magnitude < infinite) :
    throughSeconds x =
      roundedDiv (units (nearest (units x.magnitude) 1000000000) * 1000000000) one := by
  rw [throughSeconds, scaledRound, divNat_magnitude finite]

theorem throughSeconds_le_throughSeconds {x y : Binary64} (finite : y.magnitude < infinite)
    (h : x.magnitude ≤ y.magnitude) : throughSeconds x ≤ throughSeconds y := by
  rw [throughSeconds_eq finite, throughSeconds_eq (Nat.lt_of_le_of_lt h finite)]
  have positive : 0 < 1000000000 := by decide
  have quotients := nearest_le_nearest positive positive
    (Nat.mul_le_mul_right 1000000000 (units_le_units h))
  refine roundedDiv_le_roundedDiv Binary64.one_pos Binary64.one_pos (Nat.mul_le_mul_right one ?_)
  exact Nat.mul_le_mul_right 1000000000 (units_le_units quotients)

theorem throughSeconds_long :
    0x10000000000000000 ≤ throughSeconds (ofNat 0x10000000000000000) := by
  decide +kernel

/-- The first waits that are counted in seconds are not shorter than the last ones that are not. -/
theorem long_le_throughSeconds {x : Binary64} (finite : x.magnitude < infinite)
    (long : (ofNat 0x10000000000000000).magnitude ≤ x.magnitude) :
    0x10000000000000000 ≤ throughSeconds x :=
  Nat.le_trans throughSeconds_long (throughSeconds_le_throughSeconds finite long)

theorem units_long_one : 2 ^ 53 * one ≤ units (nearest (0x10000000000000000 * one) 1) := by
  decide +kernel

theorem one_eq_pow : ∃ e, one = 2 ^ e := ⟨1074, by decide +kernel⟩

/-- A step of a grid that far out is a whole number of nanoseconds. -/
theorem one_dvd_step {s r : Nat} (inside : r < 2 ^ 53) (large : 2 ^ 53 * one ≤ r * 2 ^ s)
    (k : Nat) : one ∣ k * 2 ^ s := by
  obtain ⟨e, power⟩ := one_eq_pow
  rw [power] at large ⊢
  have less : 2 ^ 53 * 2 ^ e < 2 ^ 53 * 2 ^ s :=
    Nat.lt_of_le_of_lt large (Nat.mul_lt_mul_of_pos_right inside (Nat.two_pow_pos s))
  have coarse : e < s := (Nat.pow_lt_pow_iff_right (by decide)).mp (Nat.lt_of_mul_lt_mul_left less)
  exact Nat.dvd_trans (Nat.pow_dvd_pow 2 (Nat.le_of_lt coarse)) (Nat.dvd_mul_left _ _)

/-- Where there is still a double between a long wait and its ceiling as a double, the wait is below
the ceiling in seconds too: what the two roundings add is less than the step from one double to the
next. -/
theorem throughSeconds_lt {x : Binary64} {m n : Nat}
    (long : (ofNat 0x10000000000000000).magnitude ≤ x.magnitude) (next : x.magnitude < m)
    (below : m < nearest (n * one) 1) : throughSeconds x < n := by
  have most := nearest_le_infinite (n * one) 1
  have large := units_le_units long
  rw [ofNat_magnitude] at large
  obtain ⟨s, r, own, inside, same⟩ := exists_step x.magnitude
  have after : IsStep s (r + 1) := ⟨inside, own.2.imp_right Nat.le_succ_of_le⟩
  have next_units : units (x.magnitude + 1) = (r + 1) * 2 ^ s := by
    rw [same, show step s r + 1 = step s (r + 1) from Nat.add_assoc .., units_step after]
  have passed : (r + 1) * 2 ^ s < n * one := by
    refine Nat.lt_of_not_le fun reaches => ?_
    rw [← next_units, ← Nat.mul_one (units _)] at reaches
    have rounded := nearest_le Nat.one_pos reaches
    omega
  have quotient := units_nearest_le (by decide) (Nat.le_trans units_long large)
  have back := throughSeconds_mul_le (x := x) (by omega)
  rw [same, units_step own] at large quotient back
  obtain ⟨k, whole⟩ := one_dvd_step inside (Nat.le_trans units_long_one large) (r + 1)
  have kept : k < n := by
    rw [whole, Nat.mul_comm] at passed
    exact Nat.lt_of_mul_lt_mul_right passed
  have less : r * 2 ^ s < 2 ^ 53 * 2 ^ s := Nat.mul_lt_mul_of_pos_right inside (Nat.two_pow_pos s)
  have counted : 2 * throughSeconds x * one < (2 * k + 1) * one := by
    rw [Nat.add_one_mul r] at whole
    rw [Nat.add_one_mul (2 * k), Nat.mul_assoc, Nat.mul_assoc, Nat.mul_comm k, ← whole]
    omega
  have ordered := Nat.lt_of_mul_lt_mul_right counted
  omega

/-! ## The wait -/

theorem nanos_le_nanos {x y : Binary64} (h : x.magnitude ≤ y.magnitude) :
    (Duration.ofNanos x.truncated).nanos ≤ (Duration.ofNanos y.truncated).nanos := by
  have wholes : x.truncated ≤ y.truncated := Nat.div_le_div_right (units_le_units h)
  rw [Duration.ofNanos, Duration.ofNanos]
  dsimp only
  omega

theorem rank_pos {x : Binary64} (hx : x.Large) : 0 < x.rank := by
  have least := hx.least
  have some : 0 < (ofNat 1).magnitude := by decide +kernel
  rw [hx.rank_eq]
  omega

theorem not_stops {x : Binary64} (hx : x.Large) : ¬ (x.isNaN = true ∨ x.rank ≤ 0) := by
  rw [hx.isNaN_eq]
  have positive := rank_pos hx
  rintro (⟨⟨⟩⟩ | stops)
  omega

theorem finite_of_below {x : Binary64} {n : Nat} (hx : x.Large)
    (below : x.rank < (ofNat n).rank) : x.magnitude < infinite := by
  have most := nearest_le_infinite (n * one) 1
  rw [hx.rank_eq, ofNat_rank] at below
  omega

theorem long_of_rank {x : Binary64} (hx : x.Large)
    (long : (ofNat 0x10000000000000000).rank ≤ x.rank) :
    (ofNat 0x10000000000000000).magnitude ≤ x.magnitude := by
  rw [ofNat_rank, hx.rank_eq] at long
  rw [ofNat_magnitude]
  exact Int.ofNat_le.mp long

section

variable {x y : Binary64} {d e : Duration}

/-- Below the ceiling a larger double makes no shorter wait. -/
theorem nanos_le_of_grown (hx : x.Large) (hy : y.Large) (h : x.magnitude ≤ y.magnitude)
    (first : Grown b x d) (second : Grown b y e) (below : e.nanos < b.max.nanos) :
    d.nanos ≤ e.nanos := by
  have ordered : x.rank ≤ y.rank := by
    rw [hx.rank_eq, hy.rank_eq]
    exact Int.ofNat_le.mpr h
  cases second with
  | never stops => exact absurd stops (not_stops hy)
  | full | lost => exact absurd below (Nat.lt_irrefl _)
  | nanos _ less short =>
    cases first with
    | never stops => exact absurd stops (not_stops hx)
    | nanos => exact nanos_le_nanos h
    | full reached | seconds _ _ reached _ | lost reached _ => omega
  | seconds _ less long fits =>
    have finite := finite_of_below hy less
    cases first with
    | never stops => exact absurd stops (not_stops hx)
    | full reached => omega
    | nanos positive _ short =>
      -- here the wait begins to be counted in seconds
      have before := truncated_lt positive short
      have behind := long_le_throughSeconds finite (long_of_rank hy long)
      have whole : (Duration.ofNanos x.truncated).nanos ≤ x.truncated := Nat.min_le_left _ _
      dsimp only
      omega
    | seconds =>
      dsimp only
      exact throughSeconds_le_throughSeconds finite h
    | lost _ tooLong =>
      have grows := throughSeconds_le_throughSeconds finite h
      omega

/-- What makes the ceiling makes it with every larger double. -/
theorem eq_max_of_grown (hx : x.Large) (hy : y.Large) (h : x.magnitude ≤ y.magnitude)
    (first : Grown b x d) (second : Grown b y e) (reached : d = b.max) : e = b.max := by
  have ordered : x.rank ≤ y.rank := by
    rw [hx.rank_eq, hy.rank_eq]
    exact Int.ofNat_le.mpr h
  cases first with
  | never stops => exact absurd stops (not_stops hx)
  | full full =>
    cases second with
    | never stops => exact absurd stops (not_stops hy)
    | full | lost => rfl
    | nanos | seconds => omega
  | nanos positive less _ =>
    -- such a wait is below the ceiling
    have under := truncated_lt positive less
    have same := congrArg Duration.nanos reached
    rw [Duration.ofNanos] at same
    dsimp only at same
    omega
  | seconds _ _ long _ =>
    cases second with
    | never stops => exact absurd stops (not_stops hy)
    | full | lost => rfl
    | nanos => omega
    | seconds _ less _ _ =>
      rcases Nat.lt_or_eq_of_le h with more | equal
      · rw [hy.rank_eq, ofNat_rank] at less
        have under := throughSeconds_lt (long_of_rank hx long) more (Int.ofNat_lt.mp less)
        have same := congrArg Duration.nanos reached
        dsimp only at same
        omega
      · obtain rfl := hx.eq_of_magnitude hy equal
        exact reached
  | lost long tooLong =>
    cases second with
    | never stops => exact absurd stops (not_stops hy)
    | full | lost => rfl
    | nanos => omega
    | seconds _ less _ fits =>
      have grows := throughSeconds_le_throughSeconds (finite_of_below hy less) h
      omega

end

/-- With a factor of at least one, which may be infinite, a later wait is not shorter where it is
below the ceiling, and once the wait has made the ceiling it makes it for ever. -/
theorem baseDelay_rises (grows : (ofNat 1).le b.factor = true) {i j : Nat} (later : i ≤ j) :
    ((b.baseDelay j).nanos < b.max.nanos → (b.baseDelay i).nanos ≤ (b.baseDelay j).nanos) ∧
      (b.baseDelay i = b.max → b.baseDelay j = b.max) := by
  have factor := large_of_le grows
  rcases Nat.eq_zero_or_pos b.initial.nanos with none | some
  · rw [baseDelay_of_none none factor, baseDelay_of_none none factor]
    exact ⟨fun _ => Nat.le_refl _, id⟩
  · have hi := large_scaled some factor i
    have hj := large_scaled some factor j
    have ordered := scaled_le_scaled some factor later
    have first := b.baseDelay_grown i
    have second := b.baseDelay_grown j
    exact ⟨nanos_le_of_grown hi hj ordered first second,
      eq_max_of_grown hi hj ordered first second⟩

theorem baseDelay_standard :
    (standard.baseDelay 1).nanos = 4000000 ∧ standard.baseDelay 3 = standard.max := by
  have once (r a : Binary64) : powTimes r a 1 = r.mul a := by
    rw [powTimes_odd r a rfl, powTimes_zero]
  have three (r a : Binary64) : powTimes r a 3 = (r.mul a).mul (a.mul a) := by
    rw [powTimes_odd r a rfl, once]
  rw [baseDelay, baseDelay, scaled, scaled, pow, pow, show min 1 0x7fffffff = 1 by decide,
    show min 3 0x7fffffff = 3 by decide, once, three]
  decide +kernel

/-- The standard waits rise, and end at their ceiling. -/
theorem baseDelay_rises_standard :
    (ofNat 1).le standard.factor = true ∧
      (standard.baseDelay 0).nanos ≤ (standard.baseDelay 1).nanos ∧
      standard.baseDelay 0xffffffff = standard.max := by
  have grows : (ofNat 1).le standard.factor = true := by decide +kernel
  obtain ⟨second, fourth⟩ := baseDelay_standard
  refine ⟨grows, (baseDelay_rises grows (by decide)).1 ?_,
    (baseDelay_rises grows (by decide)).2 fourth⟩
  rw [second]
  decide

end ExplorerClient.Backoff
