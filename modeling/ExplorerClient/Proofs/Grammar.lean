import ExplorerClient.Proofs.Quoted

/-!
# The grammar of JSON texts

Which texts are JSON is said here without a reader, together with the tree that each of them says.
A string may hold any bytes but control characters, and escapes for half a pair of code units; a
number may have any size. Whether a string or a number can be used is left to the tree.

Results:
* `Says`: the texts of values, and the trees that they say.
* `Said`, `WellFormed`: the same between blanks.
* `Separated.trim`: blanks at the ends of a part belong to what separates it as well.
* `Says.passes`: what a text says can be passed over.
-/

namespace ExplorerClient.Json

/-! ## Blanks -/

/-- Is the text blank? -/
def Blanks (s : List UInt8) : Prop := ∀ b ∈ s, isBlank b = true

theorem blanks_nil : Blanks [] := fun _ there => absurd there List.not_mem_nil

theorem Blanks.append {s t : List UInt8} (hs : Blanks s) (ht : Blanks t) : Blanks (s ++ t) :=
  fun b there => (List.mem_append.mp there).elim (hs b) (ht b)

theorem skipBlanks_cons {b : UInt8} (h : isBlank b = false) (s : List UInt8) :
    skipBlanks (b :: s) = b :: s := by
  simp [skipBlanks, h]

theorem Blanks.skip {gap : List UInt8} (blank : Blanks gap) (s : List UInt8) :
    skipBlanks (gap ++ s) = skipBlanks s :=
  List.dropWhile_append_of_pos blank

theorem Blanks.skip_self {gap : List UInt8} (blank : Blanks gap) : skipBlanks gap = [] := by
  rw [← List.append_nil gap, blank.skip]
  rfl

theorem exists_blanks (s : List UInt8) : ∃ gap, Blanks gap ∧ s = gap ++ skipBlanks s := by
  refine ⟨s.takeWhile isBlank, ?_, List.takeWhile_append_dropWhile.symm⟩
  exact List.all_eq_true.mp List.all_takeWhile

/-- Is the second text the first one between blanks? -/
def Padded (s padded : List UInt8) : Prop :=
  ∃ before after, Blanks before ∧ Blanks after ∧ padded = before ++ (s ++ after)

theorem padded_self (s : List UInt8) : Padded s s :=
  ⟨[], [], blanks_nil, blanks_nil, (List.append_nil s).symm⟩

/-! ## Strings -/

/-- Does the text complete a string of which some has been read, up to its closing quote? The last
argument is what comes of the string. -/
inductive Quotation.Completed : Quotation → List UInt8 → Except Fault String → Prop where
  | close (q : Quotation) : Completed q [0x22] q.finish
  | byte {q : Quotation} {b : UInt8} {s : List UInt8} {v : Except Fault String}
    (plain : Ordinary b) (more : Completed (q.add [b]) s v) : Completed q (b :: s) v
  | letter {q : Quotation} {l b : UInt8} {s : List UInt8} {v : Except Fault String}
    (stands : escaped? l = some b) (more : Completed (q.add [b]) s v) :
    Completed q (0x5c :: l :: s) v
  | unit {q : Quotation} {a b c d : UInt8} {n : Nat} {s : List UInt8} {v : Except Fault String}
    (stands : unit? a b c d = some n) (more : Completed (q.addUnit n) s v) :
    Completed q (0x5c :: 0x75 :: a :: b :: c :: d :: s) v

/-! ## Numerals -/

/-- At least one digit, and nothing else. -/
def Digits (ds : List UInt8) : Prop := ds ≠ [] ∧ ∀ b ∈ ds, isDigit b = true

/-- The digits in front of the point. A zero in front stands alone. -/
def WholeDigits (ds : List UInt8) : Prop := Digits ds ∧ ∀ b tail, ds ≠ 0x30 :: b :: tail

/-- A point and the digits behind it, or neither. -/
inductive FractionText : List UInt8 → Option (List UInt8) → Prop where
  | none : FractionText [] none
  | some {ds : List UInt8} (digits : Digits ds) : FractionText (0x2e :: ds) (some ds)

/-- The letter of an exponent, its sign and its digits, or none of them. -/
inductive ExponentText : List UInt8 → Option Int → Prop where
  | none : ExponentText [] none
  | bare {mark : UInt8} {ds : List UInt8} (letter : mark = 0x65 ∨ mark = 0x45)
    (digits : Digits ds) : ExponentText (mark :: ds) (some (digitsValue ds : Int))
  | plus {mark : UInt8} {ds : List UInt8} (letter : mark = 0x65 ∨ mark = 0x45)
    (digits : Digits ds) : ExponentText (mark :: 0x2b :: ds) (some (digitsValue ds : Int))
  | minus {mark : UInt8} {ds : List UInt8} (letter : mark = 0x65 ∨ mark = 0x45)
    (digits : Digits ds) : ExponentText (mark :: 0x2d :: ds) (some (-(digitsValue ds : Int)))

/-- The text of a numeral. -/
inductive NumeralText : List UInt8 → Numeral → Prop where
  | parts {whole f e : List UInt8} {fraction : Option (List UInt8)} {exponent : Option Int}
    (negative : Bool) (digits : WholeDigits whole) (point : FractionText f fraction)
    (scale : ExponentText e exponent) :
    NumeralText ((if negative then [0x2d] else []) ++ (whole ++ (f ++ e)))
      ⟨negative, whole, fraction.getD [], exponent.getD 0, fraction.isNone && exponent.isNone⟩

/-! ## Parts with commas between them -/

/-- Is the text made of these parts, each between blanks, and commas between them? -/
inductive Separated : List (List UInt8) → List UInt8 → Prop where
  | none {gap : List UInt8} (blank : Blanks gap) : Separated [] gap
  | last {part s : List UInt8} (padded : Padded part s) : Separated [part] s
  | more {part next s rest : List UInt8} {parts : List (List UInt8)} (padded : Padded part s)
    (others : Separated (next :: parts) rest) :
    Separated (part :: next :: parts) (s ++ 0x2c :: rest)

theorem Padded.trim {core part s : List UInt8} (inner : Padded core part) (outer : Padded part s) :
    Padded core s := by
  obtain ⟨b, a, hb, ha, rfl⟩ := inner
  obtain ⟨b', a', hb', ha', rfl⟩ := outer
  exact ⟨b' ++ b, a ++ a', hb'.append hb, ha.append ha', by simp⟩

theorem Separated.trim {α : Type} {core part : α → List UInt8} {xs : List α} {s : List UInt8}
    (padded : ∀ x ∈ xs, Padded (core x) (part x)) (h : Separated (xs.map part) s) :
    Separated (xs.map core) s := by
  induction xs generalizing s with
  | nil =>
    cases h with
    | none blank => exact .none blank
  | cons x xs ih =>
    have first := padded x List.mem_cons_self
    have rest : ∀ y ∈ xs, Padded (core y) (part y) := fun y there =>
      padded y (List.mem_cons_of_mem x there)
    cases xs with
    | nil =>
      cases h with
      | last outer => exact .last (first.trim outer)
    | cons y ys =>
      cases h with
      | more outer others => exact .more (first.trim outer) (ih rest others)

/-! ## Values -/

/-- How a member of an object is written: its name from behind the opening quote, blanks on both
sides of the colon, and its value. -/
structure Member where
  name : List UInt8
  before : List UInt8
  after : List UInt8
  value : List UInt8

/-- The text of a member. -/
def Member.text (m : Member) : List UInt8 :=
  0x22 :: (m.name ++ (m.before ++ 0x3a :: (m.after ++ m.value)))

/-- Does the member stand under a name that comes to this? -/
structure Member.Named (m : Member) (name : Except Fault String) : Prop where
  completed : Quotation.Completed {} m.name name
  before : Blanks m.before
  after : Blanks m.after

/-- The tree that the text of a value says. -/
inductive Says : List UInt8 → Tree → Prop where
  | null : Says (utf8 "null") .null
  | bool (value : Bool) : Says (utf8 (Value.bool value).render) (.bool value)
  | number {s : List UInt8} {n : Numeral} (numeral : NumeralText s n) : Says s (.number n.value)
  | text {s : List UInt8} {v : Except Fault String} (completed : Quotation.Completed {} s v) :
    Says (0x22 :: s) (.text v)
  | array {s : List UInt8} {items : List (List UInt8 × Tree)}
    (parts : Separated (items.map Prod.fst) s) (each : ∀ i ∈ items, Says i.1 i.2) :
    Says (0x5b :: (s ++ [0x5d])) (.array (items.map Prod.snd) none)
  | object {s : List UInt8} {members : List (Member × Except Fault String × Tree)}
    (parts : Separated (members.map fun m => m.1.text) s)
    (named : ∀ m ∈ members, m.1.Named m.2.1) (each : ∀ m ∈ members, Says m.1.value m.2.2) :
    Says (0x7b :: (s ++ [0x7d])) (.object (members.map Prod.snd) none)

/-- Does the text of a value between blanks say the tree? -/
def Said (s : List UInt8) (t : Tree) : Prop := ∃ core, Padded core s ∧ Says core t

/-- Is the text one value between blanks? -/
def WellFormed (s : List UInt8) : Prop := ∃ t, Said s t

theorem Says.said {s : List UInt8} {t : Tree} (h : Says s t) : Said s t := ⟨s, padded_self s, h⟩

/-! ## Passing over -/

theorem itemsPassFault?_eq_none {items : List Tree} :
    itemsPassFault? items = none ↔ ∀ t ∈ items, t.passFault? = none := by
  induction items with
  | nil => simp [itemsPassFault?]
  | cons t rest ih => simp [itemsPassFault?, Option.or_eq_none_iff, ih]

theorem membersPassFault?_eq_none {members : List (Except Fault String × Tree)} :
    membersPassFault? members = none ↔ ∀ m ∈ members, m.2.passFault? = none := by
  induction members with
  | nil => simp [membersPassFault?]
  | cons m rest ih => simp [membersPassFault?, Option.or_eq_none_iff, ih]

/-- What a text says can be passed over. -/
theorem Says.passes {s : List UInt8} {t : Tree} (h : Says s t) : t.passFault? = none := by
  induction h with
  | null | bool | number | text => rw [Tree.passFault?] <;> simp
  | array _ _ ih =>
    rw [Tree.passFault?, itemsPassFault?_eq_none.mpr]
    · rfl
    · rintro t there
      obtain ⟨i, there', rfl⟩ := List.mem_map.mp there
      exact ih i there'
  | object _ _ _ ih =>
    rw [Tree.passFault?, membersPassFault?_eq_none.mpr]
    · rfl
    · rintro named there
      obtain ⟨m, there', rfl⟩ := List.mem_map.mp there
      exact ih m there'

theorem Said.passes {s : List UInt8} {t : Tree} (h : Said s t) : t.passFault? = none := by
  obtain ⟨core, -, inner⟩ := h
  exact inner.passes

end ExplorerClient.Json
