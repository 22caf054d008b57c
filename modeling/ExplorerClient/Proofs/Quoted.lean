import ExplorerClient.Json.Reader
import ExplorerClient.Proofs.Written
import ExplorerClient.Text.Utf8

/-!
# Strings that are written and read back

Between its quotes a string is written character by character. Whatever a character is written as,
reading it adds exactly its bytes to the string, so reading what was written gives the string, and
what follows the closing quote is left alone.

Results:
* `utf8EncodeChar_ordinary`: a character that is written as itself has only ordinary bytes.
* `readString_quoteChar`: one character.
* `readString_inside`: a whole string.
-/

namespace ExplorerClient.Json

/-! ## The bytes of a text -/

/-- The bytes of a text. -/
def utf8 (s : String) : List UInt8 := s.toUTF8.data.toList

theorem utf8_eq (s : String) : utf8 s = s.toList.flatMap String.utf8EncodeChar :=
  Route.toUTF8_data_toList s

@[simp] theorem utf8_append (s t : String) : utf8 (s ++ t) = utf8 s ++ utf8 t := by
  simp [utf8_eq]

theorem utf8_ofList (cs : List Char) :
    utf8 (String.ofList cs) = cs.flatMap String.utf8EncodeChar := by
  simp [utf8_eq]

theorem utf8_toByteArray (s : String) : (utf8 s).toByteArray = s.toUTF8 := by
  apply ByteArray.ext
  simp [utf8]

/-! ## Ordinary bytes -/

/-- A byte that stands for itself inside a string. -/
structure Ordinary (b : UInt8) : Prop where
  noQuote : b ≠ 0x22
  noBackslash : b ≠ 0x5c
  noControl : ¬ b < 0x20

theorem Ordinary.of_large {b : UInt8} (h : 128 ≤ b.toNat) : Ordinary b := by
  refine ⟨?_, ?_, ?_⟩
  · rintro rfl
    exact absurd h (by decide)
  · rintro rfl
    exact absurd h (by decide)
  · intro small
    have : b.toNat < 32 := UInt8.lt_iff_toNat_lt.mp small
    omega

/-- The bytes of a character beyond ASCII are all large. -/
theorem utf8EncodeChar_large {c : Char} (beyond : 128 ≤ c.toNat) :
    ∀ b ∈ String.utf8EncodeChar c, 128 ≤ b.toNat := by
  intro b hb
  have value : c.val.toNat = c.toNat := rfl
  have lead : ∀ n k : Nat, 128 ≤ k → n + k < 256 → 128 ≤ (UInt8.ofNat (n + k)).toNat := by
    intro n k large small
    rw [UInt8.toNat_ofNat']
    omega
  simp only [String.utf8EncodeChar, value] at hb
  rw [if_neg (by omega)] at hb
  split at hb
  · simp only [List.mem_cons, List.not_mem_nil, or_false] at hb
    rcases hb with rfl | rfl <;> exact lead _ _ (by omega) (by omega)
  · split at hb
    · simp only [List.mem_cons, List.not_mem_nil, or_false] at hb
      rcases hb with rfl | rfl | rfl <;> exact lead _ _ (by omega) (by omega)
    · simp only [List.mem_cons, List.not_mem_nil, or_false] at hb
      rcases hb with rfl | rfl | rfl | rfl <;> exact lead _ _ (by omega) (by omega)

theorem ordinary_ofNat : ∀ n : Fin 128, Char.ofNat n ≠ '\x22' → Char.ofNat n ≠ '\\' → 0x20 ≤ n.val →
    UInt8.ofNat n ≠ 0x22 ∧ UInt8.ofNat n ≠ 0x5c ∧ ¬ UInt8.ofNat n < 0x20 := by
  decide

theorem utf8EncodeChar_ordinary {c : Char} (hq : c ≠ '\x22') (hb : c ≠ '\\')
    (hc : 0x20 ≤ c.toNat) : ∀ b ∈ String.utf8EncodeChar c, Ordinary b := by
  intro b mem
  by_cases small : c.toNat < 128
  · have bytes := Text.utf8EncodeChar_ascii ⟨c.toNat, small⟩
    have facts := ordinary_ofNat ⟨c.toNat, small⟩
    simp only [Char.ofNat_toNat] at bytes facts
    rw [bytes] at mem
    obtain rfl := List.mem_singleton.mp mem
    obtain ⟨h1, h2, h3⟩ := facts hq hb hc
    exact ⟨h1, h2, h3⟩
  · exact Ordinary.of_large (utf8EncodeChar_large (by omega) b mem)

/-! ## Reading -/

/-- A string of which these bytes have been read, all of them well. -/
def Quotation.of (bytes : List UInt8) : Quotation := { bytes := bytes.reverse }

theorem Quotation.of_add (done more : List UInt8) :
    (Quotation.of done).add more = Quotation.of (done ++ more) := by
  simp [Quotation.of, Quotation.add]

theorem Quotation.of_addUnit (done : List UInt8) {n : Nat} (basic : n < 0xd800) :
    (Quotation.of done).addUnit n =
      Quotation.of (done ++ String.utf8EncodeChar (Char.ofNat n)) := by
  rw [Quotation.addUnit, if_neg (by omega), if_neg (by omega), Quotation.of_add]

theorem Quotation.of_finish (s : String) : (Quotation.of (utf8 s)).finish = .ok s := by
  have read : String.fromUTF8? (utf8 s).toByteArray = some s := by
    rw [utf8_toByteArray, Text.fromUTF8?_toUTF8]
  simp [Quotation.finish, Quotation.of, read]

theorem readString_ordinary {b : UInt8} (h : Ordinary b) (q : Quotation) (rest : List UInt8) :
    readString q (b :: rest) = readString (q.add [b]) rest := by
  rw [readString, if_neg h.noControl]
  · exact h.noQuote
  -- none of the cases of a backslash
  · exact fun _ _ _ _ _ same _ => h.noBackslash same
  · exact fun _ same _ => h.noBackslash same
  · exact fun _ _ same _ => h.noBackslash same
  · exact fun same _ => h.noBackslash same

theorem readString_ordinaries {bs : List UInt8} (h : ∀ b ∈ bs, Ordinary b)
    (done rest : List UInt8) :
    readString (.of done) (bs ++ rest) = readString (.of (done ++ bs)) rest := by
  induction bs generalizing done with
  | nil => simp
  | cons b bs ih =>
    rw [List.cons_append, readString_ordinary (h b (by simp)), Quotation.of_add,
      ih (fun c hc => h c (by simp [hc])), List.append_assoc]
    rfl

theorem readString_unit {a b c d : UInt8} {n : Nat} (h : unit? a b c d = some n) (q : Quotation)
    (rest : List UInt8) :
    readString q (0x5c :: 0x75 :: a :: b :: c :: d :: rest) = readString (q.addUnit n) rest := by
  rw [readString, h]

theorem readString_letter {letter b : UInt8} (h : escaped? letter = some b) (q : Quotation)
    (rest : List UInt8) :
    readString q (0x5c :: letter :: rest) = readString (q.add [b]) rest := by
  have other : letter ≠ 0x75 := by
    rintro rfl
    cases h
  rw [readString, h]
  · rintro _ _ _ _ _ same -
    exact other same
  · exact other

theorem unit?_control : ∀ n : Fin 32,
    ['\\', 'u', '0', '0', hexDigit (n / 16), hexDigit (n % 16)].flatMap String.utf8EncodeChar =
        [0x5c, 0x75, 0x30, 0x30, UInt8.ofNat (hexDigit (n / 16)).toNat,
          UInt8.ofNat (hexDigit (n % 16)).toNat] ∧
      unit? 0x30 0x30 (UInt8.ofNat (hexDigit (n / 16)).toNat)
        (UInt8.ofNat (hexDigit (n % 16)).toNat) = some n.val := by
  decide

/-- However a character is written, it is read as itself. -/
theorem readString_quoteChar (c : Char) (done rest : List UInt8) :
    readString (.of done) ((quoteChar c).flatMap String.utf8EncodeChar ++ rest) =
      readString (.of (done ++ String.utf8EncodeChar c)) rest := by
  have letter : ∀ (l b : UInt8), escaped? l = some b → String.utf8EncodeChar c = [b] →
      readString (.of done) (0x5c :: l :: rest) =
        readString (.of (done ++ String.utf8EncodeChar c)) rest := by
    intro l b stands bytes
    rw [readString_letter stands, Quotation.of_add, bytes]
  unfold quoteChar
  split
  · subst c
    exact letter 0x22 0x22 rfl rfl
  split
  · subst c
    exact letter 0x5c 0x5c rfl rfl
  split
  · rename_i hq hb hc
    rw [List.flatMap_singleton, readString_ordinaries (utf8EncodeChar_ordinary hq hb hc)]
  split
  · subst c
    exact letter 0x62 0x08 rfl rfl
  split
  · subst c
    exact letter 0x74 0x09 rfl rfl
  split
  · subst c
    exact letter 0x6e 0x0a rfl rfl
  split
  · subst c
    exact letter 0x66 0x0c rfl rfl
  split
  · subst c
    exact letter 0x72 0x0d rfl rfl
  · rename_i control _ _ _ _ _
    obtain ⟨bytes, unit⟩ := unit?_control ⟨c.toNat, by omega⟩
    simp only at bytes unit
    rw [bytes]
    simp only [List.cons_append, List.nil_append]
    rw [readString_unit unit, Quotation.of_addUnit _ (by omega), Char.ofNat_toNat]

/-- What stands between the quotes of a string. -/
def inside (s : String) : List UInt8 := (s.toList.flatMap quoteChar).flatMap String.utf8EncodeChar

theorem readString_chars (cs : List Char) (done rest : List UInt8) :
    readString (.of done) ((cs.flatMap quoteChar).flatMap String.utf8EncodeChar ++ rest) =
      readString (.of (done ++ cs.flatMap String.utf8EncodeChar)) rest := by
  induction cs generalizing done with
  | nil => simp
  | cons c cs ih =>
    rw [List.flatMap_cons, List.flatMap_append, List.append_assoc, readString_quoteChar, ih,
      List.flatMap_cons, List.append_assoc]

theorem utf8_quote (s : String) : utf8 (quote s) = 0x22 :: (inside s ++ [0x22]) := by
  rw [quote, utf8_ofList, List.flatMap_cons, List.flatMap_append]
  rfl

/-- A string that has been written is read back, up to its closing quote. -/
theorem readString_inside (s : String) (rest : List UInt8) :
    readString {} (inside s ++ 0x22 :: rest) = .ok (.ok s, rest) := by
  have chars := readString_chars s.toList [] (0x22 :: rest)
  rw [List.nil_append, ← utf8_eq] at chars
  have closed : readString (.of (utf8 s)) (0x22 :: rest) = .ok (.ok s, rest) := by
    rw [readString, Quotation.of_finish]
  exact chars.trans closed

end ExplorerClient.Json
