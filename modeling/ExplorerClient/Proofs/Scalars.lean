import ExplorerClient.Proofs.Grammar
import ExplorerClient.Proofs.Nearest

/-!
# Strings and numerals as they are read

The readers of strings and of numerals accept exactly what the grammar says. A numeral is read as
far as it goes, so what follows it must not go on with it.

Results:
* `readString_eq_ok_iff`: strings.
* `NumeralText.read`: a numeral is read, and what follows is left alone.
* `exists_numeralText`: what has been read is a numeral.
* `Numeral.value_float`: a numeral that stands for a double stands for a finite one of its sign.
-/

namespace ExplorerClient.Json

/-! ## Steps that came out well -/

section

variable {ε α β : Type} {x : Except ε α} {b : β}

theorem exists_ok_of_map {f : α → β} (h : x.map f = .ok b) : ∃ a, x = .ok a ∧ f a = b := by
  cases x with
  | error e => cases h
  | ok a => exact ⟨a, rfl, Except.ok.inj h⟩

theorem exists_ok_of_bind {f : α → Except ε β} (h : x >>= f = .ok b) :
    ∃ a, x = .ok a ∧ f a = .ok b := by
  cases x with
  | error e => cases h
  | ok a => exact ⟨a, rfl, h⟩

end

/-! ## Strings -/

theorem Quotation.Completed.read {q : Quotation} {s : List UInt8} {v : Except Fault String}
    (h : q.Completed s v) (rest : List UInt8) : readString q (s ++ rest) = .ok (v, rest) := by
  induction h with
  | close q => rw [List.cons_append, List.nil_append, readString]
  | byte plain _ ih => exact (readString_ordinary plain _ _).trans ih
  | letter stands _ ih => exact (readString_letter stands _ _).trans ih
  | unit stands _ ih => exact (readString_unit stands _ _).trans ih

/-- The reader of strings accepts what completes a string, and leaves what follows. -/
theorem readString_eq_ok_iff {q : Quotation} {s rest : List UInt8} {v : Except Fault String} :
    readString q s = .ok (v, rest) ↔ ∃ w, q.Completed w v ∧ s = w ++ rest := by
  constructor
  · intro read
    fun_induction readString q s with
    | case2 q rest' =>
      cases read
      exact ⟨[0x22], .close q, rfl⟩
    | case3 q a b c d rest' n stands ih =>
      obtain ⟨w, completed, rfl⟩ := ih read
      exact ⟨_, .unit stands completed, rfl⟩
    | case6 q l rest' _ _ b stands ih =>
      obtain ⟨w, completed, rfl⟩ := ih read
      exact ⟨_, .letter stands completed, rfl⟩
    | case10 q b rest' noQuote _ _ noLetter noEnd noControl ih =>
      obtain ⟨w, completed, rfl⟩ := ih read
      have noBackslash : b ≠ 0x5c := by
        intro backslash
        cases behind : w ++ rest with
        | nil => exact noEnd backslash behind
        | cons l more => exact noLetter l more backslash behind
      exact ⟨_, .byte ⟨noQuote, noBackslash, noControl⟩ completed, rfl⟩
    | case1 | case4 | case5 | case7 | case8 | case9 => cases read
  · rintro ⟨w, completed, rfl⟩
    exact completed.read rest

/-! ## Digits -/

/-- Nothing that could belong to a numeral in front of it stands at the start. -/
def Parted (rest : List UInt8) : Prop :=
  ∀ b tail, rest = b :: tail → isDigit b = false ∧ b ≠ 0x2e ∧ b ≠ 0x65 ∧ b ≠ 0x45

theorem parted_nil : Parted [] := by
  rintro b tail ⟨⟩

theorem parted_cons {b : UInt8} (digit : isDigit b = false)
    (other : b ≠ 0x2e ∧ b ≠ 0x65 ∧ b ≠ 0x45) (tail : List UInt8) : Parted (b :: tail) := by
  rintro b' tail' ⟨⟩
  exact ⟨digit, other⟩

/-- No digit stands at the start. -/
def NoDigit (rest : List UInt8) : Prop := ∀ b tail, rest = b :: tail → isDigit b = false

theorem Parted.noDigit {rest : List UInt8} (h : Parted rest) : NoDigit rest :=
  fun b tail same => (h b tail same).1

theorem Digits.digits_eq {ds rest : List UInt8} (h : Digits ds) (ends : NoDigit rest) :
    digits (ds ++ rest) = (ds, rest) := by
  have none_more : rest.takeWhile isDigit = [] ∧ rest.dropWhile isDigit = rest := by
    cases rest with
    | nil => exact ⟨rfl, rfl⟩
    | cons b tail => simp [ends b tail rfl]
  rw [digits, List.takeWhile_append_of_pos h.2, List.dropWhile_append_of_pos h.2, none_more.1,
    none_more.2, List.append_nil]

theorem Digits.required {ds rest : List UInt8} (h : Digits ds) (ends : NoDigit rest) :
    requiredDigits (ds ++ rest) = .ok (ds, rest) := by
  rw [requiredDigits, h.digits_eq ends]
  split
  · rename_i same
    exact absurd (congrArg Prod.fst same) h.1
  · rename_i same
    exact absurd (congrArg Prod.fst same) h.1
  · rfl

theorem digits_of_required {s ds rest : List UInt8} (h : requiredDigits s = .ok (ds, rest)) :
    Digits ds ∧ s = ds ++ rest := by
  unfold requiredDigits at h
  split at h
  · cases h
  · cases h
  · rename_i none_missing
    have found : digits s = (ds, rest) := Except.ok.inj h
    have front : s.takeWhile isDigit = ds := congrArg Prod.fst found
    have back : s.dropWhile isDigit = rest := congrArg Prod.snd found
    subst front back
    refine ⟨⟨fun none => ?_, List.all_eq_true.mp List.all_takeWhile⟩,
      List.takeWhile_append_dropWhile.symm⟩
    exact none_missing _ (by rw [found, none])

theorem WholeDigits.read {ds rest : List UInt8} (h : WholeDigits ds) (ends : NoDigit rest) :
    wholeDigits (ds ++ rest) = .ok (ds, rest) := by
  rw [wholeDigits, h.1.required ends]
  split
  · rename_i same
    exact absurd (congrArg Prod.fst (Except.ok.inj same)) (h.2 _ _)
  · rfl

theorem wholeDigits_of_read {s ds rest : List UInt8} (h : wholeDigits s = .ok (ds, rest)) :
    WholeDigits ds ∧ s = ds ++ rest := by
  unfold wholeDigits at h
  split at h
  · cases h
  · rename_i alone
    obtain ⟨digits, split⟩ := digits_of_required h
    refine ⟨⟨digits, fun b tail zero => ?_⟩, split⟩
    exact alone b tail rest (by rw [h, zero])

/-! ## Fractions and exponents -/

theorem noDigit_point (s : List UInt8) : NoDigit (0x2e :: s) := by
  rintro b tail ⟨⟩
  decide

theorem noDigit_mark {mark : UInt8} (letter : mark = 0x65 ∨ mark = 0x45) (s : List UInt8) :
    NoDigit (mark :: s) := by
  rintro b tail ⟨⟩
  rcases letter with rfl | rfl <;> decide

theorem ExponentText.noDigit {e rest : List UInt8} {x : Option Int} (h : ExponentText e x)
    (parted : Parted rest) : NoDigit (e ++ rest) := by
  cases h with
  | none => exact parted.noDigit
  | bare letter | plus letter | minus letter => exact noDigit_mark letter _

theorem FractionText.noDigit {f rest : List UInt8} {x : Option (List UInt8)}
    (h : FractionText f x) (ends : NoDigit rest) : NoDigit (f ++ rest) := by
  cases h with
  | none => exact ends
  | some => exact noDigit_point _

theorem fractionDigits_other {s : List UInt8} (other : ∀ tail, s ≠ 0x2e :: tail) :
    fractionDigits s = .ok (none, s) := by
  unfold fractionDigits
  split
  · exact absurd rfl (other _)
  · rfl

theorem FractionText.read {f rest : List UInt8} {x : Option (List UInt8)} (h : FractionText f x)
    (ends : NoDigit rest) (other : ∀ tail, rest ≠ 0x2e :: tail) :
    fractionDigits (f ++ rest) = .ok (x, rest) := by
  cases h with
  | none => exact fractionDigits_other other
  | some digits =>
    rw [List.cons_append, fractionDigits, digits.required ends]
    rfl

theorem exists_fractionText {s rest : List UInt8} {x : Option (List UInt8)}
    (h : fractionDigits s = .ok (x, rest)) : ∃ f, FractionText f x ∧ s = f ++ rest := by
  unfold fractionDigits at h
  split at h
  · rename_i tail
    obtain ⟨⟨ds, rest'⟩, required, same⟩ := exists_ok_of_map h
    cases same
    obtain ⟨digits, rfl⟩ := digits_of_required required
    exact ⟨_, .some digits, rfl⟩
  · cases h
    exact ⟨[], .none, rfl⟩

theorem exponentDigits_parted {rest : List UInt8} (parted : Parted rest) :
    exponentDigits rest = .ok (none, rest) := by
  cases rest with
  | nil => rfl
  | cons mark tail =>
    obtain ⟨-, -, small, large⟩ := parted mark tail rfl
    unfold exponentDigits
    exact if_neg (by simp [small, large])

theorem Digits.unsigned {ds rest : List UInt8} (h : Digits ds) (sign : UInt8)
    (noDigit : isDigit sign = false) (tail : List UInt8) : ds ++ rest ≠ sign :: tail := by
  obtain ⟨there, all⟩ := h
  cases ds with
  | nil => exact absurd rfl there
  | cons b ds =>
    intro same
    have digit := all b List.mem_cons_self
    rw [(List.cons.inj same).1, noDigit] at digit
    cases digit

theorem ExponentText.read {e rest : List UInt8} {x : Option Int} (h : ExponentText e x)
    (parted : Parted rest) : exponentDigits (e ++ rest) = .ok (x, rest) := by
  cases h with
  | none => exact exponentDigits_parted parted
  | bare letter digits =>
    rw [List.cons_append, exponentDigits, if_pos letter, digits.required parted.noDigit]
    · rfl
    · exact digits.unsigned 0x2d (by decide)
    · exact digits.unsigned 0x2b (by decide)
  | plus letter digits | minus letter digits =>
    rw [List.cons_append, List.cons_append, exponentDigits, if_pos letter,
      digits.required parted.noDigit]
    rfl

theorem exists_exponentText {s rest : List UInt8} {x : Option Int}
    (h : exponentDigits s = .ok (x, rest)) : ∃ e, ExponentText e x ∧ s = e ++ rest := by
  unfold exponentDigits at h
  split at h
  · split at h
    · rename_i mark tail letter
      split at h
      · obtain ⟨⟨ds, rest'⟩, required, same⟩ := exists_ok_of_map h
        cases same
        obtain ⟨digits, rfl⟩ := digits_of_required required
        exact ⟨_, .minus letter digits, rfl⟩
      · obtain ⟨⟨ds, rest'⟩, required, same⟩ := exists_ok_of_map h
        cases same
        obtain ⟨digits, rfl⟩ := digits_of_required required
        exact ⟨_, .plus letter digits, rfl⟩
      · obtain ⟨⟨ds, rest'⟩, required, same⟩ := exists_ok_of_map h
        cases same
        obtain ⟨digits, rfl⟩ := digits_of_required required
        exact ⟨_, .bare letter digits, rfl⟩
    · cases h
      exact ⟨[], .none, rfl⟩
  · cases h
    exact ⟨[], .none, rfl⟩

/-! ## Numerals -/

theorem ExponentText.noPoint {e rest : List UInt8} {x : Option Int} (h : ExponentText e x)
    (parted : Parted rest) (tail : List UInt8) : e ++ rest ≠ 0x2e :: tail := by
  have other {mark : UInt8} (letter : mark = 0x65 ∨ mark = 0x45) (more : List UInt8) :
      mark :: more ≠ 0x2e :: tail := by
    rintro ⟨⟩
    rcases letter with point | point <;> exact absurd point (by decide)
  cases h with
  | none => exact fun same => (parted _ _ same).2.1 rfl
  | bare letter | plus letter | minus letter => exact other letter _

theorem minusSign_digits {ds rest : List UInt8} (h : Digits ds) (negative : Bool) :
    minusSign ((if negative then [0x2d] else []) ++ (ds ++ rest)) = (negative, ds ++ rest) := by
  cases negative with
  | true => rfl
  | false =>
    rw [if_neg (by decide), List.nil_append]
    unfold minusSign
    split
    · rename_i tail same
      exact absurd same (h.unsigned 0x2d (by decide) tail)
    · rfl

/-- A numeral is read to its end, and what follows is left alone. -/
theorem NumeralText.read {s rest : List UInt8} {n : Numeral} (h : NumeralText s n)
    (parted : Parted rest) : readNumeral (s ++ rest) = .ok (n, rest) := by
  obtain @⟨whole, f, e, fraction, exponent, negative, digits, point, scale⟩ := h
  have behind := point.noDigit (scale.noDigit parted)
  have first : minusSign ((if negative then [0x2d] else []) ++ (whole ++ (f ++ (e ++ rest)))) =
      (negative, whole ++ (f ++ (e ++ rest))) := minusSign_digits digits.1 negative
  have second := digits.read behind
  have third := point.read (scale.noDigit parted) (scale.noPoint parted)
  have fourth := scale.read parted
  simp only [List.append_assoc]
  rw [readNumeral, first]
  simp only [second, bind, Except.bind, third, fourth]
  rfl

/-- What has been read is a numeral. -/
theorem exists_numeralText {s rest : List UInt8} {n : Numeral}
    (h : readNumeral s = .ok (n, rest)) : ∃ w, NumeralText w n ∧ s = w ++ rest := by
  rw [readNumeral] at h
  obtain ⟨negative, behind, sign, front⟩ : ∃ negative behind, minusSign s = (negative, behind) ∧
      s = (if negative then [0x2d] else []) ++ behind := by
    unfold minusSign
    split <;> exact ⟨_, _, rfl, rfl⟩
  rw [sign] at h
  obtain ⟨⟨whole, afterWhole⟩, first, more⟩ := exists_ok_of_bind h
  obtain ⟨⟨fraction, afterFraction⟩, second, last⟩ := exists_ok_of_bind more
  obtain ⟨⟨exponent, afterExponent⟩, third, made⟩ := exists_ok_of_bind last
  obtain ⟨digits, rfl⟩ := wholeDigits_of_read first
  obtain ⟨f, point, rfl⟩ := exists_fractionText second
  obtain ⟨e, scale, rfl⟩ := exists_exponentText third
  cases made
  exact ⟨_, .parts negative digits point scale, by simp [front]⟩

/-! ## The doubles of numerals -/

theorem collect_lt {n : Nat} (h : n < 0x10000000000000000) (ds : List UInt8) :
    (collect n ds).1 < 0x10000000000000000 := by
  induction ds generalizing n with
  | nil => exact h
  | cons d ds ih =>
    simp only [collect]
    split
    · exact ih ‹_›
    · exact h

theorem Numeral.significand_lt (n : Numeral) : n.significand.1 < 0x10000000000000000 :=
  collect_lt (collect_lt (by decide) n.whole) n.fraction

/-- What 64 bits hold is a finite double. -/
theorem ofNat_finite {n : Nat} (h : n < 0x10000000000000000) :
    (Binary64.ofNat n).magnitude < Binary64.infinite := by
  have last : (Binary64.ofNat 0x10000000000000000).magnitude < Binary64.infinite := by
    decide +kernel
  exact Nat.lt_of_le_of_lt (Binary64.ofNat_magnitude_le (Nat.le_of_lt h)) last

theorem Numeral.double?_finite {n : Numeral} {x : Binary64} (h : n.double? = some x) :
    x.magnitude < Binary64.infinite ∧ x.negative = n.negative := by
  obtain ⟨y, absolute, rfl⟩ := Option.map_eq_some_iff.mp h
  refine ⟨Nat.lt_of_le_of_lt (Nat.min_le_right _ _) ?_, rfl⟩
  split at absolute
  · exact Binary64.scaled?_finite (ofNat_finite n.significand_lt) absolute
  · split at absolute
    · cases absolute
      decide
    · cases absolute

/-- A numeral that stands for a double stands for a finite one, with the numeral's sign. -/
theorem Numeral.value_float {n : Numeral} {x : Binary64} (h : n.value = .ok (.float x)) :
    x.magnitude < Binary64.infinite ∧ x.negative = n.negative := by
  simp only [Numeral.value] at h
  split at h
  · cases h
  · split at h
    · cases h
    · split at h
      · rename_i y double
        cases h
        exact double?_finite double
      · cases h

end ExplorerClient.Json
