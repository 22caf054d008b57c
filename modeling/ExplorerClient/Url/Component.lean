import ExplorerClient.Text.Percent

/-!
# The parts of an address as they are written

Each part of an address has marks of its own that are written by their number in it, because they
end the part or have been taken for its end. Controls and everything beyond ASCII are written by
their number in all parts. A percent sign stands for itself, so that what is escaped already stays.

Results:
* `encode_eq_self`: a text of characters that a part keeps is written as it is.
-/

namespace ExplorerClient.Url

/-- The parts of an address. -/
inductive Component where
  /-- The name of a user, or a password. -/
  | user
  /-- A path of segments. -/
  | path
  /-- A query, in an address of the web or in another. -/
  | query (web : Bool)
  /-- A fragment. -/
  | fragment
  /-- A path without segments, or the name of a host outside of the web. -/
  | other

namespace Component

/-- The marks that are written by their number. -/
def escaped : Component → List Char
  | user => " \"<>`#?\x7b\x7d/:;=@[\\]^|".toList
  | path => " \"<>`#?\x7b\x7d".toList
  | query true => " \"#<>'".toList
  | query false => " \"#<>".toList
  | fragment => " \"<>`".toList
  | other => []

/-- Does the byte stand for itself? -/
def keeps (p : Component) (b : UInt8) : Bool :=
  0x20 ≤ b && b < 0x7f && !p.escaped.contains (Char.ofNat b.toNat)

/-- A text as it is written. -/
def encode (p : Component) (cs : List Char) : List Char :=
  cs.flatMap fun c => Text.percentEncode p.keeps (String.utf8EncodeChar c)

theorem encode_char {p : Component} {c : Char} (small : c.toNat < 128)
    (kept : p.keeps (UInt8.ofNat c.toNat) = true) :
    Text.percentEncode p.keeps (String.utf8EncodeChar c) = [c] := by
  have bytes := Text.utf8EncodeChar_ascii ⟨c.toNat, small⟩
  simp only [Char.ofNat_toNat] at bytes
  have value : c.toNat % 256 = c.toNat := Nat.mod_eq_of_lt (by omega)
  simp [bytes, Text.percentEncode, kept, value]

theorem encode_eq_self {p : Component} {cs : List Char}
    (plain : ∀ c ∈ cs, c.toNat < 128 ∧ p.keeps (UInt8.ofNat c.toNat) = true) :
    p.encode cs = cs := by
  induction cs with
  | nil => rfl
  | cons c rest ih =>
    have here := plain c (by simp)
    rw [encode, List.flatMap_cons, encode_char here.1 here.2]
    exact congrArg (c :: ·) (ih fun d hd => plain d (by simp [hd]))

end Component

end ExplorerClient.Url
