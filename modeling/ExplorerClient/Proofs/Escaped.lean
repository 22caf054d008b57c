import ExplorerClient.Proofs.Quoted
import ExplorerClient.Proofs.Written
import Mathlib.Data.List.Forall2

/-!
# Escaped texts

A text is escaped character by character. The characters that may stand in a path segment are
copied; of every other character each byte becomes a percent sign and two capital hexadecimal
digits. Nothing else is ever written, and nothing is lost: reading the numbers back gives the bytes
of the text.

Results:
* `escape_toList`: escaping goes character by character.
* `spelled_escapedChar`: what is written for one character.
* `escape_exact`: the laws of escaping.
-/

namespace ExplorerClient.Route

/-! ## What may be written -/

/-- May the character stand in a path segment? These are the letters and digits of ASCII and ten
marks. -/
def Passes (c : Char) : Prop :=
  c.isAlphanum = true ∨ c ∈ ['-', '_', '.', '~', '$', '&', '+', '=', ':', '@']

instance (c : Char) : Decidable (Passes c) := inferInstanceAs (Decidable (_ ∨ _))

/-- Is the character the capital hexadecimal digit of a number? -/
def IsHex (c : Char) (n : Nat) : Prop :=
  (c.isDigit = true ∧ n = c.toNat - '0'.toNat) ∨
    ('A' ≤ c ∧ c ≤ 'F' ∧ n = 10 + (c.toNat - 'A'.toNat))

/-- A byte written by its number. -/
inductive Triple (b : UInt8) : List Char → Prop where
  | digits {high low : Char} (left : IsHex high (b.toNat / 16)) (right : IsHex low (b.toNat % 16)) :
    Triple b ['%', high, low]

/-- What is written for a character. -/
inductive Spelled (c : Char) : List Char → Prop where
  | copied (passes : Passes c) : Spelled c [c]
  | numbered {triples : List (List Char)} (stopped : ¬ Passes c)
    (bytes : List.Forall₂ Triple (String.utf8EncodeChar c) triples) : Spelled c triples.flatten

/-! ## What is written -/

theorem isHex_hexDigit : ∀ n : Fin 16, IsHex (Text.hexDigit n) n := by
  unfold IsHex
  decide

theorem triple_percentByte (b : UInt8) : Triple b (Text.percentByte b) := by
  have hb := b.toNat_lt
  exact .digits (isHex_hexDigit ⟨b.toNat / 16, by omega⟩) (isHex_hexDigit ⟨b.toNat % 16, by omega⟩)

theorem passes_ofNat : ∀ n : Fin 128,
    standsForItself (UInt8.ofNat n) = true ↔ Passes (Char.ofNat n) := by
  decide

theorem passes_iff {c : Char} (small : c.toNat < 128) :
    standsForItself (UInt8.ofNat c.toNat) = true ↔ Passes c := by
  have same := passes_ofNat ⟨c.toNat, small⟩
  simpa only [Char.ofNat_toNat] using same

theorem not_passes_of_large {c : Char} (large : 128 ≤ c.toNat) : ¬ Passes c := by
  rintro (plain | mark)
  · have value : c.val.toNat = c.toNat := rfl
    delta Char.isAlphanum Char.isAlpha Char.isUpper Char.isLower Char.isDigit at plain
    simp only [ge_iff_le, Bool.or_eq_true, Bool.and_eq_true, decide_eq_true_eq,
      UInt32.le_iff_toNat_le, value, Char.reduceVal, UInt32.reduceToNat] at plain
    omega
  · have marks : ['-', '_', '.', '~', '$', '&', '+', '=', ':', '@'].all (·.toNat < 128) = true := by
      decide
    have := of_decide_eq_true (List.all_eq_true.mp marks c mark)
    omega

/-- What is written for one character. -/
def escapedChar (c : Char) : List Char :=
  Text.percentEncode standsForItself (String.utf8EncodeChar c)

theorem escape_toList (s : String) : (escape s).toList = s.toList.flatMap escapedChar := by
  rw [escape, String.toList_ofList, toUTF8_data_toList, Text.percentEncode, List.flatMap_assoc]
  rfl

theorem escape_append (s t : String) : escape (s ++ t) = escape s ++ escape t := by
  rw [← String.toList_inj, String.toList_append, escape_toList, escape_toList, escape_toList,
    String.toList_append, List.flatMap_append]

theorem escape_injective : Function.Injective escape := by
  intro s t same
  refine data_toList_injective ?_
  rw [← percentDecode_escape s, ← percentDecode_escape t, same]

theorem percentEncode_stopped {bytes : List UInt8}
    (stopped : ∀ b ∈ bytes, ¬ standsForItself b = true) :
    Text.percentEncode standsForItself bytes = (bytes.map Text.percentByte).flatten := by
  rw [Text.percentEncode, List.flatMap_def]
  exact congrArg List.flatten (List.map_congr_left fun b hb => if_neg (stopped b hb))

theorem spelled_numbered {c : Char} (stopped : ¬ Passes c)
    (bytes : ∀ b ∈ String.utf8EncodeChar c, ¬ standsForItself b = true) :
    Spelled c (escapedChar c) := by
  rw [escapedChar, percentEncode_stopped bytes]
  refine .numbered stopped ?_
  rw [List.forall₂_map_right_iff]
  exact List.forall₂_same.mpr fun b _ => triple_percentByte b

theorem spelled_escapedChar (c : Char) : Spelled c (escapedChar c) := by
  by_cases small : c.toNat < 128
  · have bytes := utf8EncodeChar_small small
    by_cases passes : Passes c
    · have copied : escapedChar c = [c] := by
        rw [escapedChar, bytes, Text.percentEncode, List.flatMap_singleton,
          if_pos ((passes_iff small).mpr passes), toNat_smallByte small, Char.ofNat_toNat]
      rw [copied]
      exact .copied passes
    · refine spelled_numbered passes fun b hb => ?_
      rw [bytes] at hb
      rw [List.mem_singleton.mp hb, passes_iff small]
      exact passes
  · -- every byte of a character beyond ASCII is beyond ASCII, and such bytes never stand
    refine spelled_numbered (not_passes_of_large (by omega)) fun b hb stands => ?_
    have beyond := Json.utf8EncodeChar_large (by omega) b hb
    have ascii : b.toNat < 128 := UInt8.lt_iff_toNat_lt.mp (standsForItself_ascii stands).1
    omega

/-- What is written for a text is written for its characters in turn, reading the numbers back gives
its bytes, no two texts are written alike, and a text in two parts is written in two parts. -/
theorem escape_exact :
    (∀ s, ∃ pieces, (escape s).toList = pieces.flatten ∧ List.Forall₂ Spelled s.toList pieces) ∧
    (∀ s, Text.percentDecode (escape s).toList = s.toUTF8.data.toList) ∧
    Function.Injective escape ∧
    ∀ s t, escape (s ++ t) = escape s ++ escape t := by
  refine ⟨fun s => ?_, percentDecode_escape, escape_injective, escape_append⟩
  refine ⟨s.toList.map escapedChar, ?_, ?_⟩
  · rw [escape_toList, List.flatMap_def]
  · rw [List.forall₂_map_right_iff]
    exact List.forall₂_same.mpr fun c _ => spelled_escapedChar c

end ExplorerClient.Route
