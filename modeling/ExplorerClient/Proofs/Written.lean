import ExplorerClient.Route.Sent

/-!
# Arguments as they are written into a route

Whatever an argument is, the characters it is written with are so few that nothing in an address is
taken for more than it is: none of them ends a segment, begins a query or a fragment, is a blank, or
has to be escaped once more.

Results:
* `written_verbatim`: an argument is written with verbatim characters.
* `plain_of_isVerbatim`: what such a character is not taken for.
* `percentDecode_written`: what is written stands for exactly the argument.
-/

namespace ExplorerClient.Route

/-! ## Verbatim characters -/

/-- Is the character one that escaping leaves behind? -/
def isVerbatim (c : Char) : Bool :=
  c == '%' || (c.toNat < 128 && standsForItself (UInt8.ofNat c.toNat))

/-- A text of characters that escaping leaves behind. -/
def Verbatim (cs : List Char) : Prop := ∀ c ∈ cs, isVerbatim c = true

instance (cs : List Char) : Decidable (Verbatim cs) :=
  decidable_of_iff (cs.all isVerbatim = true) List.all_eq_true

/-- What a character is not taken for in an address. -/
structure Plain (c : Char) : Prop where
  small : c.toNat < 128
  noSlash : c ≠ '/'
  noBackslash : c ≠ '\\'
  noBrace : c ≠ '\x7b'
  inPlace : Url.inPlace c = true
  noBreak : Url.isBreak c = false
  noMargin : Url.isMargin c = false
  path : Url.Component.path.keeps (UInt8.ofNat c.toNat) = true
  query : (Url.Component.query true).keeps (UInt8.ofNat c.toNat) = true

theorem plain_ofNat : ∀ n : Fin 128, isVerbatim (Char.ofNat n) = true →
    Char.ofNat n ≠ '/' ∧ Char.ofNat n ≠ '\\' ∧ Char.ofNat n ≠ '\x7b' ∧
    Url.inPlace (Char.ofNat n) = true ∧ Url.isBreak (Char.ofNat n) = false ∧
    Url.isMargin (Char.ofNat n) = false ∧ Url.Component.path.keeps (UInt8.ofNat n) = true ∧
    (Url.Component.query true).keeps (UInt8.ofNat n) = true := by
  decide

theorem plain_of_isVerbatim {c : Char} (h : isVerbatim c = true) : Plain c := by
  have small : c.toNat < 128 := by
    rcases Bool.or_eq_true .. ▸ h with h | h
    · rw [beq_iff_eq.mp h]
      decide
    · simp only [Bool.and_eq_true, decide_eq_true_eq] at h
      exact h.1
  have facts := plain_ofNat ⟨c.toNat, small⟩
  simp only [Char.ofNat_toNat] at facts
  obtain ⟨h1, h2, h3, h4, h5, h6, h7, h8⟩ := facts h
  exact ⟨small, h1, h2, h3, h4, h5, h6, h7, h8⟩

theorem Verbatim.plain {cs : List Char} (h : Verbatim cs) {c : Char} (hc : c ∈ cs) : Plain c :=
  plain_of_isVerbatim (h c hc)

theorem Verbatim.append {xs ys : List Char} (hx : Verbatim xs) (hy : Verbatim ys) :
    Verbatim (xs ++ ys) := by
  intro c hc
  rcases List.mem_append.mp hc with hc | hc
  · exact hx c hc
  · exact hy c hc

/-! ## Texts -/

set_option maxRecDepth 2000 in
theorem standsForItself_ofNat : ∀ n : Fin 256, standsForItself (UInt8.ofNat n) = true →
    n.val < 128 ∧ n.val ≠ 0x25 := by
  decide

theorem standsForItself_ascii {b : UInt8} (h : standsForItself b = true) :
    b < 0x80 ∧ b ≠ 0x25 := by
  have facts := standsForItself_ofNat ⟨b.toNat, b.toNat_lt⟩ (by simpa using h)
  refine ⟨UInt8.lt_iff_toNat_lt.mpr facts.1, fun sign => facts.2 ?_⟩
  rw [sign]
  rfl

theorem isVerbatim_ofNat {b : UInt8} (h : standsForItself b = true) :
    isVerbatim (Char.ofNat b.toNat) = true := by
  have small : b.toNat < 128 := UInt8.lt_iff_toNat_lt.mp (standsForItself_ascii h).1
  have codes : ∀ n : Fin 128, (Char.ofNat n).toNat = n.val := by decide
  have value : (Char.ofNat b.toNat).toNat = b.toNat := codes ⟨b.toNat, small⟩
  simp [isVerbatim, value, small, h]

theorem isVerbatim_hexDigit : ∀ n : Fin 16, isVerbatim (Text.hexDigit n) = true := by
  decide

theorem percentByte_verbatim (b : UInt8) : Verbatim (Text.percentByte b) := by
  intro c hc
  have hb := b.toNat_lt
  simp only [Text.percentByte, List.mem_cons, List.not_mem_nil, or_false] at hc
  rcases hc with rfl | rfl | rfl
  · decide
  · exact isVerbatim_hexDigit ⟨b.toNat / 16, by omega⟩
  · exact isVerbatim_hexDigit ⟨b.toNat % 16, by omega⟩

theorem escape_verbatim (s : String) : Verbatim (escape s).toList := by
  intro c hc
  simp only [escape, String.toList_ofList, Text.percentEncode, List.mem_flatMap] at hc
  obtain ⟨b, -, hc⟩ := hc
  split at hc
  · rename_i kept
    rw [List.mem_singleton.mp hc]
    exact isVerbatim_ofNat kept
  · exact percentByte_verbatim b c hc

theorem percentDecode_escape (s : String) :
    Text.percentDecode (escape s).toList = s.toUTF8.data.toList := by
  rw [escape, String.toList_ofList]
  exact Text.percentDecode_percentEncode (fun _ => standsForItself_ascii) _

/-! ## Whole numbers -/

theorem isVerbatim_digit {c : Char} (h : c.isDigit = true) : isVerbatim c = true := by
  have bounds : 48 ≤ c.toNat ∧ c.toNat ≤ 57 := by
    simp only [Char.isDigit, ge_iff_le, Bool.and_eq_true, decide_eq_true_eq] at h
    exact ⟨UInt32.le_iff_toNat_le.mp h.1, UInt32.le_iff_toNat_le.mp h.2⟩
  have digits : ∀ n : Fin 128, 48 ≤ n.val → n.val ≤ 57 → isVerbatim (Char.ofNat n) = true := by
    decide
  have := digits ⟨c.toNat, by omega⟩ bounds.1 bounds.2
  rwa [Char.ofNat_toNat] at this

theorem repr_digit {n : Int} {c : Char} (hc : c ∈ (Int.repr n).toList) :
    c = '-' ∨ c.isDigit = true := by
  cases n with
  | ofNat n =>
    rw [Int.repr, Nat.toList_repr] at hc
    exact Or.inr (Nat.isDigit_of_mem_toDigits (by decide) (by decide) hc)
  | negSucc n =>
    rw [Int.repr] at hc
    simp only [String.toList_append, List.mem_append] at hc
    rcases hc with hc | hc
    · left
      simpa using hc
    · rw [Nat.toList_repr] at hc
      exact Or.inr (Nat.isDigit_of_mem_toDigits (by decide) (by decide) hc)

theorem repr_verbatim (n : Int) : Verbatim (Int.repr n).toList := by
  intro c hc
  rcases repr_digit hc with rfl | h
  · decide
  · exact isVerbatim_digit h

theorem percentDecode_plain {cs : List Char} (h : '%' ∉ cs) :
    Text.percentDecode cs = cs.flatMap String.utf8EncodeChar := by
  induction cs with
  | nil => rfl
  | cons c rest ih =>
    simp only [List.mem_cons, not_or] at h
    rw [Text.percentDecode, ih h.2, List.flatMap_cons]
    rintro a b tail rfl -
    exact h.1 rfl

theorem toNat_smallByte {c : Char} (small : c.toNat < 128) :
    (UInt8.ofNat c.toNat).toNat = c.toNat := by
  rw [UInt8.toNat_ofNat', Nat.mod_eq_of_lt (by omega)]

/-- A character of ASCII is one byte. -/
theorem utf8EncodeChar_small {c : Char} (small : c.toNat < 128) :
    String.utf8EncodeChar c = [UInt8.ofNat c.toNat] := by
  have ascii := Text.utf8EncodeChar_ascii ⟨c.toNat, small⟩
  simpa only [Char.ofNat_toNat] using ascii

theorem toUTF8_data_toList (s : String) :
    s.toUTF8.data.toList = s.toList.flatMap String.utf8EncodeChar := by
  rw [String.toUTF8_eq_toByteArray, ← String.utf8Encode_toList, List.utf8Encode]
  simp

theorem data_toList_injective {s t : String}
    (h : s.toUTF8.data.toList = t.toUTF8.data.toList) : s = t := by
  rw [← String.toByteArray_inj, ← String.toUTF8_eq_toByteArray, ← String.toUTF8_eq_toByteArray]
  exact ByteArray.ext (Array.toList_inj.mp h)

/-! ## Arguments -/

/-- The text that an argument stands for. -/
def Argument.value : Argument → String
  | .text value => value
  | .number value => Int.repr value

theorem written_verbatim (a : Argument) : Verbatim a.written.toList := by
  cases a with
  | text s => exact escape_verbatim s
  | number n => exact repr_verbatim n

theorem percentDecode_written (a : Argument) :
    Text.percentDecode a.written.toList = a.value.toUTF8.data.toList := by
  cases a with
  | text s => exact percentDecode_escape s
  | number n =>
    rw [toUTF8_data_toList]
    refine percentDecode_plain fun sign => ?_
    rcases repr_digit sign with h | h
    · exact absurd h (by decide)
    · exact absurd h (by decide)

end ExplorerClient.Route
