/-!
# Bytes written by their number

Where a byte must not stand for itself it is written as a percent sign and two capital hexadecimal
digits. Reading takes such triples back, in capitals or not, and leaves everything else alone.

Results:
* `percentDecode_percentEncode`: what has been written is read back, if no percent sign and only
  ASCII stands for itself.
-/

namespace ExplorerClient.Text

/-- The capital hexadecimal digit of a number below sixteen. -/
def hexDigit (n : Nat) : Char :=
  if n < 10 then Char.ofNat (0x30 + n) else Char.ofNat (0x37 + n)

/-- The value of a hexadecimal digit. -/
def hexValue? (c : Char) : Option Nat :=
  if '0' ≤ c && c ≤ '9' then some (c.toNat - 0x30)
  else if 'A' ≤ c && c ≤ 'F' then some (c.toNat - 0x37)
  else if 'a' ≤ c && c ≤ 'f' then some (c.toNat - 0x57)
  else none

/-- A byte written by its number. -/
def percentByte (b : UInt8) : List Char :=
  ['%', hexDigit (b.toNat / 16), hexDigit (b.toNat % 16)]

/-- Bytes of which those that `keeps` holds of stand for themselves. -/
def percentEncode (keeps : UInt8 → Bool) (bytes : List UInt8) : List Char :=
  bytes.flatMap fun b => if keeps b then [Char.ofNat b.toNat] else percentByte b

/-- The bytes that a text with some of them written by their number stands for. -/
def percentDecode : List Char → List UInt8
  | [] => []
  | '%' :: a :: b :: rest =>
    match hexValue? a, hexValue? b with
    | some high, some low => UInt8.ofNat (16 * high + low) :: percentDecode rest
    | _, _ => 0x25 :: percentDecode (a :: b :: rest)
  | c :: rest => String.utf8EncodeChar c ++ percentDecode rest

theorem hexValue?_hexDigit : ∀ n : Fin 16, hexValue? (hexDigit n) = some n.val := by decide

theorem utf8EncodeChar_ascii : ∀ n : Fin 128,
    String.utf8EncodeChar (Char.ofNat n) = [UInt8.ofNat n] := by
  decide

theorem percentDecode_percentByte (b : UInt8) (rest : List Char) :
    percentDecode (percentByte b ++ rest) = b :: percentDecode rest := by
  have hb : b.toNat < 256 := b.toNat_lt
  have high := hexValue?_hexDigit ⟨b.toNat / 16, by omega⟩
  have low := hexValue?_hexDigit ⟨b.toNat % 16, by omega⟩
  simp only [percentByte, List.cons_append, List.nil_append, percentDecode]
  simp only at high low
  rw [high, low]
  simp only [List.cons.injEq, and_true]
  rw [Nat.div_add_mod]
  simp

theorem percentDecode_percentEncode {keeps : UInt8 → Bool}
    (plain : ∀ b, keeps b = true → b < 0x80 ∧ b ≠ 0x25) (bytes : List UInt8) :
    percentDecode (percentEncode keeps bytes) = bytes := by
  induction bytes with
  | nil => rfl
  | cons b rest ih =>
    have cons : percentEncode keeps (b :: rest) =
        (if keeps b then [Char.ofNat b.toNat] else percentByte b) ++ percentEncode keeps rest := rfl
    rw [cons]
    split
    · rename_i kept
      obtain ⟨small, other⟩ := plain b kept
      have small : b.toNat < 128 := UInt8.lt_iff_toNat_lt.1 small
      have bytes := utf8EncodeChar_ascii ⟨b.toNat, small⟩
      have differs : Char.ofNat b.toNat ≠ '%' := by
        intro h
        rw [h] at bytes
        have sign : String.utf8EncodeChar '%' = [0x25] := by decide
        exact other (by simpa [sign] using bytes.symm)
      rw [List.singleton_append, percentDecode]
      · rw [ih, bytes]
        simp
      · rintro a b' tail h -
        exact differs h
    · rw [percentDecode_percentByte, ih]

end ExplorerClient.Text
