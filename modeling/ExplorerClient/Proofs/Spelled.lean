import ExplorerClient.Proofs.Scalars

/-!
# What a text spells

A text spells a tree if the reader makes that tree of it whatever follows, as long as that does not
go on with a numeral, and leaves what follows alone. Twice the length of the text is enough steps:
inside an array or an object, each value stands in front of a comma or a bracket that pays for the
step down to it.

Results:
* `spells_number`: numerals.
* `SpellsItems.separated`, `SpellsMembers.separated`: what stands in arrays and objects.
* `Says.spells`: the reader makes of a text the tree that the text says.
* `Said.read`: so it does of a whole text.
* `Said.unique`: a text says one tree at most.
-/

namespace ExplorerClient.Json

/-! ## What a text spells -/

/-- The reader makes the tree of the text and leaves what follows. -/
def Spells (s : List UInt8) (t : Tree) : Prop :=
  ∀ steps rest, 2 * s.length ≤ steps → Parted rest → readValue steps (s ++ rest) = (t, some rest)

/-- The reader makes the trees of a text that ends with the bracket of an array. -/
def SpellsItems (s : List UInt8) (ts : List Tree) : Prop :=
  ∀ steps rest, 2 * s.length ≤ steps → readItems steps (s ++ rest) = (ts, none, some rest)

/-- The reader makes the named trees of a text that ends with the brace of an object. -/
def SpellsMembers (s : List UInt8) (ms : List (Except Fault String × Tree)) : Prop :=
  ∀ steps rest, 2 * s.length ≤ steps → readMembers steps (s ++ rest) = (ms, none, some rest)

/-- A byte pays for two steps. -/
theorem exists_step {k steps : Nat} (enough : 2 * (k + 1) ≤ steps) :
    ∃ n, steps = n + 1 ∧ 2 * k < n := ⟨steps - 1, by omega, by omega⟩

theorem Spells.of_head {b : UInt8} {s : List UInt8} {t : Tree}
    (h : ∀ n rest, 2 * s.length < n → Parted rest →
      readValue (n + 1) (b :: (s ++ rest)) = (t, some rest)) : Spells (b :: s) t := by
  intro steps rest enough parted
  obtain ⟨n, rfl, left⟩ := exists_step enough
  exact h n rest left parted

/-- Blanks in front of a value belong to it. -/
theorem Spells.indent {gap s : List UInt8} {t : Tree} (h : Spells s t) (blank : Blanks gap) :
    Spells (gap ++ s) t := by
  intro steps rest enough parted
  rw [List.length_append] at enough
  cases steps with
  | zero =>
    obtain rfl : gap = [] := List.eq_nil_of_length_eq_zero (by omega)
    exact h 0 rest (by omega) parted
  | succ n =>
    have read := h (n + 1) rest (by omega) parted
    rw [readValue] at read ⊢
    rwa [List.append_assoc, blank.skip]

theorem not_blank_parts : ∀ b : UInt8, isBlank b = true →
    isDigit b = false ∧ b ≠ 0x2e ∧ b ≠ 0x65 ∧ b ≠ 0x45 := by
  intro b blank
  simp only [isBlank, Bool.or_eq_true, beq_iff_eq] at blank
  rcases blank with ((rfl | rfl) | rfl) | rfl <;> decide

theorem Parted.after_blanks {gap rest : List UInt8} (parted : Parted rest) (blank : Blanks gap) :
    Parted (gap ++ rest) := by
  cases gap with
  | nil => exact parted
  | cons b gap =>
    obtain ⟨digit, other⟩ := not_blank_parts b (blank b List.mem_cons_self)
    exact parted_cons digit other _

/-! ## Words, strings and numbers -/

theorem readWord_self (t : Tree) (word rest : List UInt8) :
    readWord t word (word ++ rest) = (t, some rest) := by
  induction word with
  | nil => rw [List.nil_append, readWord]
  | cons w word ih => rw [List.cons_append, readWord, if_pos rfl, ih]

theorem spells_null : Spells (utf8 "null") .null :=
  Spells.of_head fun _ rest _ _ => readWord_self .null [0x75, 0x6c, 0x6c] rest

theorem spells_bool (value : Bool) : Spells (utf8 (Value.bool value).render) (.bool value) := by
  cases value with
  | true =>
    rw [Value.render]
    exact Spells.of_head fun _ rest _ _ => readWord_self (.bool true) [0x72, 0x75, 0x65] rest
  | false =>
    rw [Value.render]
    exact Spells.of_head fun _ rest _ _ =>
      readWord_self (.bool false) [0x61, 0x6c, 0x73, 0x65] rest

theorem spells_text {s : List UInt8} {v : Except Fault String}
    (completed : Quotation.Completed {} s v) : Spells (0x22 :: s) (.text v) := by
  refine Spells.of_head fun n rest _ _ => ?_
  rw [readValue, skipBlanks_cons (by decide)]
  simp only [completed.read rest]
  rfl

set_option maxRecDepth 2000 in
theorem isDigit_byte : ∀ n : Fin 256, isDigit (UInt8.ofNat n) = true →
    isBlank (UInt8.ofNat n) = false ∧ UInt8.ofNat n ≠ 0x5b ∧ UInt8.ofNat n ≠ 0x7b ∧
      UInt8.ofNat n ≠ 0x22 := by
  decide

theorem isDigit_other {b : UInt8} (h : isDigit b = true) :
    isBlank b = false ∧ b ≠ 0x5b ∧ b ≠ 0x7b ∧ b ≠ 0x22 := by
  have facts := isDigit_byte ⟨b.toNat, b.toNat_lt⟩
  simp only [UInt8.ofNat_toNat] at facts
  exact facts h

theorem readValue_numeral {b : UInt8} (starts : b = 0x2d ∨ isDigit b = true) (steps : Nat)
    (rest : List UInt8) : readValue (steps + 1) (b :: rest) = readNumber (b :: rest) := by
  have other : isBlank b = false ∧ b ≠ 0x5b ∧ b ≠ 0x7b ∧ b ≠ 0x22 := by
    rcases starts with rfl | digit
    · decide
    · exact isDigit_other digit
  obtain ⟨blank, array, object, text⟩ := other
  rw [readValue, skipBlanks_cons blank]
  simp only [if_neg array, if_neg object, if_neg text]
  rw [if_pos (by simpa using starts)]

theorem NumeralText.head {s : List UInt8} {n : Numeral} (h : NumeralText s n) :
    ∃ b tail, s = b :: tail ∧ (b = 0x2d ∨ isDigit b = true) := by
  obtain @⟨whole, f, e, fraction, exponent, negative, digits, point, scale⟩ := h
  cases negative with
  | true => exact ⟨0x2d, _, rfl, Or.inl rfl⟩
  | false =>
    obtain ⟨⟨there, all⟩, -⟩ := digits
    cases whole with
    | nil => exact absurd rfl there
    | cons b tail => exact ⟨b, _, rfl, Or.inr (all b List.mem_cons_self)⟩

theorem spells_number {s : List UInt8} {n : Numeral} (h : NumeralText s n) :
    Spells s (.number n.value) := by
  obtain ⟨b, tail, rfl, starts⟩ := h.head
  refine Spells.of_head fun k rest _ parted => ?_
  rw [readValue_numeral starts, ← List.cons_append, readNumber, h.read parted]

/-! ## Arrays -/

/-- Where values follow, the array is not closed. -/
theorem SpellsItems.head {s : List UInt8} {ts : List Tree} (h : SpellsItems s ts)
    (rest : List UInt8) : ∀ tail, skipBlanks (s ++ rest) ≠ 0x5d :: tail := by
  intro tail closed
  have read := h (2 * s.length + 2) rest (by omega)
  -- the bracket stops the reader of a value, and then nothing is left to go on with
  have halts : (readValue (2 * s.length + 1) (s ++ rest)).2 = none := by
    rw [readValue, closed]
    rfl
  rw [readItems] at read
  split at read
  · cases read
  · rename_i found
    rw [found] at halts
    cases halts

theorem SpellsItems.last {s gap : List UInt8} {t : Tree} (h : Spells s t) (blank : Blanks gap) :
    SpellsItems (s ++ (gap ++ [0x5d])) [t] := by
  intro steps rest enough
  simp only [List.length_append, List.length_cons, List.length_nil] at enough
  have least : 2 * (s.length + 1) ≤ steps := by omega
  obtain ⟨n, rfl, left⟩ := exists_step least
  have read := h n (gap ++ 0x5d :: rest) (by omega)
    ((parted_cons (by decide) (by decide) rest).after_blanks blank)
  have shape : s ++ (gap ++ [0x5d]) ++ rest = s ++ (gap ++ 0x5d :: rest) := by simp
  rw [shape, readItems, read]
  simp only [blank.skip, skipBlanks_cons (show isBlank 0x5d = false by decide), if_true]

theorem SpellsItems.cons {s gap more : List UInt8} {t : Tree} {ts : List Tree} (h : Spells s t)
    (blank : Blanks gap) (later : SpellsItems more ts) :
    SpellsItems (s ++ (gap ++ 0x2c :: more)) (t :: ts) := by
  intro steps rest enough
  simp only [List.length_append, List.length_cons] at enough
  have least : 2 * (s.length + more.length + 1) ≤ steps := by omega
  obtain ⟨n, rfl, left⟩ := exists_step least
  have read := h n (gap ++ 0x2c :: (more ++ rest)) (by omega)
    ((parted_cons (by decide) (by decide) _).after_blanks blank)
  have read_more := later n rest (by omega)
  have shape : s ++ (gap ++ 0x2c :: more) ++ rest = s ++ (gap ++ 0x2c :: (more ++ rest)) := by simp
  rw [shape, readItems, read]
  simp only [blank.skip, skipBlanks_cons (show isBlank 0x2c = false by decide), read_more]
  rfl

theorem SpellsItems.separated {items : List (List UInt8 × Tree)} {s : List UInt8}
    (there : items ≠ []) (parts : Separated (items.map Prod.fst) s)
    (each : ∀ i ∈ items, Spells i.1 i.2) : SpellsItems (s ++ [0x5d]) (items.map Prod.snd) := by
  induction items generalizing s with
  | nil => exact absurd rfl there
  | cons i items ih =>
    have first := each i List.mem_cons_self
    have rest : ∀ j ∈ items, Spells j.1 j.2 := fun j behind =>
      each j (List.mem_cons_of_mem i behind)
    cases items with
    | nil =>
      obtain ⟨before, after, hb, ha, rfl⟩ : Padded i.1 s := by
        cases parts with
        | last padded => exact padded
      have spelled := SpellsItems.last (first.indent hb) ha
      simpa using spelled
    | cons j items =>
      cases parts with
      | more padded others =>
        obtain ⟨before, after, hb, ha, rfl⟩ := padded
        have spelled := SpellsItems.cons (first.indent hb) ha (ih (by simp) others rest)
        simpa using spelled

theorem Spells.array {s : List UInt8} {ts : List Tree} (h : SpellsItems s ts) :
    Spells (0x5b :: s) (.array ts none) := by
  refine Spells.of_head fun n rest enough _ => ?_
  have read := h n rest (by omega)
  rw [readValue, skipBlanks_cons (by decide)]
  simp only [if_true]
  split
  · rename_i closed
    exact absurd closed (h.head rest _)
  · rw [read]

theorem spells_empty_array {gap : List UInt8} (blank : Blanks gap) :
    Spells (0x5b :: (gap ++ [0x5d])) (.array [] none) := by
  refine Spells.of_head fun n rest _ _ => ?_
  have closed : skipBlanks (gap ++ [0x5d] ++ rest) = 0x5d :: rest := by
    rw [List.append_assoc, blank.skip]
    rfl
  rw [readValue, skipBlanks_cons (by decide)]
  simp only [if_true, closed]

/-! ## Objects -/

/-- Where members follow, the object is not closed. -/
theorem SpellsMembers.head {s : List UInt8} {ms : List (Except Fault String × Tree)}
    (h : SpellsMembers s ms) (rest : List UInt8) :
    ∀ tail, skipBlanks (s ++ rest) ≠ 0x7d :: tail := by
  intro tail closed
  have read := h (2 * s.length + 1) rest (by omega)
  rw [readMembers, closed] at read
  exact absurd (congrArg (·.2.2) read) (by simp)

theorem SpellsMembers.indent {gap s : List UInt8} {ms : List (Except Fault String × Tree)}
    (h : SpellsMembers s ms) (blank : Blanks gap) : SpellsMembers (gap ++ s) ms := by
  intro steps rest enough
  rw [List.length_append] at enough
  cases steps with
  | zero =>
    obtain rfl : gap = [] := List.eq_nil_of_length_eq_zero (by omega)
    exact h 0 rest (by omega)
  | succ n =>
    have read := h (n + 1) rest (by omega)
    rw [readMembers] at read ⊢
    rwa [List.append_assoc, blank.skip]

section

variable {m : Member} {name : Except Fault String} {t : Tree} {gap : List UInt8}

theorem Member.length_text (m : Member) : m.text.length =
    m.name.length + (m.before.length + (m.after.length + m.value.length + 1)) + 1 := by
  simp [text]

theorem Member.text_append (m : Member) (rest : List UInt8) : m.text ++ rest =
    0x22 :: (m.name ++ (m.before ++ 0x3a :: (m.after ++ m.value ++ rest))) := by
  simp [text]

theorem SpellsMembers.last (named : m.Named name) (h : Spells m.value t) (blank : Blanks gap) :
    SpellsMembers (m.text ++ (gap ++ [0x7d])) [(name, t)] := by
  intro steps rest enough
  simp only [List.length_append, List.length_cons, List.length_nil, m.length_text] at enough
  have least : 2 * ((m.after ++ m.value).length + 1) ≤ steps := by
    rw [List.length_append]
    omega
  obtain ⟨n, rfl, left⟩ := exists_step least
  have read := h.indent named.after n (gap ++ 0x7d :: rest) (by omega)
    ((parted_cons (by decide) (by decide) rest).after_blanks blank)
  have shape : m.text ++ (gap ++ [0x7d]) ++ rest = m.text ++ (gap ++ 0x7d :: rest) := by simp
  rw [shape, m.text_append, readMembers, skipBlanks_cons (by decide)]
  simp only [if_true, named.completed.read, named.before.skip,
    skipBlanks_cons (show isBlank 0x3a = false by decide), read, blank.skip,
    skipBlanks_cons (show isBlank 0x7d = false by decide)]

theorem SpellsMembers.cons {more : List UInt8} {ms : List (Except Fault String × Tree)}
    (named : m.Named name) (h : Spells m.value t) (blank : Blanks gap)
    (later : SpellsMembers more ms) :
    SpellsMembers (m.text ++ (gap ++ 0x2c :: more)) ((name, t) :: ms) := by
  intro steps rest enough
  simp only [List.length_append, List.length_cons, m.length_text] at enough
  have least : 2 * ((m.after ++ m.value).length + more.length + 1) ≤ steps := by
    rw [List.length_append]
    omega
  obtain ⟨n, rfl, left⟩ := exists_step least
  have read := h.indent named.after n (gap ++ 0x2c :: (more ++ rest)) (by omega)
    ((parted_cons (by decide) (by decide) _).after_blanks blank)
  have read_more := later n rest (by omega)
  have shape : m.text ++ (gap ++ 0x2c :: more) ++ rest =
      m.text ++ (gap ++ 0x2c :: (more ++ rest)) := by simp
  rw [shape, m.text_append, readMembers, skipBlanks_cons (by decide)]
  simp only [if_true, named.completed.read, named.before.skip,
    skipBlanks_cons (show isBlank 0x3a = false by decide), read, blank.skip,
    skipBlanks_cons (show isBlank 0x2c = false by decide), read_more]
  rfl

end

theorem SpellsMembers.separated {members : List (Member × Except Fault String × Tree)}
    {s : List UInt8} (there : members ≠ []) (parts : Separated (members.map fun m => m.1.text) s)
    (named : ∀ m ∈ members, m.1.Named m.2.1) (each : ∀ m ∈ members, Spells m.1.value m.2.2) :
    SpellsMembers (s ++ [0x7d]) (members.map Prod.snd) := by
  induction members generalizing s with
  | nil => exact absurd rfl there
  | cons m members ih =>
    have name := named m List.mem_cons_self
    have first := each m List.mem_cons_self
    have names : ∀ k ∈ members, k.1.Named k.2.1 := fun k behind =>
      named k (List.mem_cons_of_mem m behind)
    have rest : ∀ k ∈ members, Spells k.1.value k.2.2 := fun k behind =>
      each k (List.mem_cons_of_mem m behind)
    cases members with
    | nil =>
      obtain ⟨before, after, hb, ha, rfl⟩ : Padded m.1.text s := by
        cases parts with
        | last padded => exact padded
      have spelled := (SpellsMembers.last name first ha).indent hb
      simpa using spelled
    | cons k members =>
      cases parts with
      | more padded others =>
        obtain ⟨before, after, hb, ha, rfl⟩ := padded
        have later := ih (by simp) others names rest
        have spelled := (SpellsMembers.cons name first ha later).indent hb
        simpa using spelled

theorem Spells.object {s : List UInt8} {ms : List (Except Fault String × Tree)}
    (h : SpellsMembers s ms) : Spells (0x7b :: s) (.object ms none) := by
  refine Spells.of_head fun n rest enough _ => ?_
  have read := h n rest (by omega)
  rw [readValue, skipBlanks_cons (by decide)]
  simp only [show (0x7b : UInt8) ≠ 0x5b by decide, if_false, if_true]
  split
  · rename_i closed
    exact absurd closed (h.head rest _)
  · rw [read]

theorem spells_empty_object {gap : List UInt8} (blank : Blanks gap) :
    Spells (0x7b :: (gap ++ [0x7d])) (.object [] none) := by
  refine Spells.of_head fun n rest _ _ => ?_
  have closed : skipBlanks (gap ++ [0x7d] ++ rest) = 0x7d :: rest := by
    rw [List.append_assoc, blank.skip]
    rfl
  rw [readValue, skipBlanks_cons (by decide)]
  simp only [show (0x7b : UInt8) ≠ 0x5b by decide, if_false, if_true, closed]

/-! ## Values -/

/-- The reader makes of a text the tree that the text says. -/
theorem Says.spells {s : List UInt8} {t : Tree} (h : Says s t) : Spells s t := by
  induction h with
  | null => exact spells_null
  | bool value => exact spells_bool value
  | number numeral => exact spells_number numeral
  | text completed => exact spells_text completed
  | @array s items parts _ ih =>
    cases items with
    | nil =>
      cases parts with
      | none blank => exact spells_empty_array blank
    | cons i items => exact Spells.array (SpellsItems.separated (by simp) parts ih)
  | @object s members parts named _ ih =>
    cases members with
    | nil =>
      cases parts with
      | none blank => exact spells_empty_object blank
    | cons m members => exact Spells.object (SpellsMembers.separated (by simp) parts named ih)

/-- A whole text is read as the tree that it says, and nothing else follows. -/
theorem Said.read {s : List UInt8} {t : Tree} (h : Said s t) : Json.read s = (t, true) := by
  obtain ⟨core, ⟨before, after, hb, ha, rfl⟩, tells⟩ := h
  have whole := tells.spells.indent hb (2 * (before ++ (core ++ after)).length + 2) after (by
    simp only [List.length_append]
    omega) (by simpa using parted_nil.after_blanks ha)
  rw [List.append_assoc] at whole
  rw [Json.read, whole]
  simp [ha.skip_self]

theorem Said.unique {s : List UInt8} {t u : Tree} (ht : Said s t) (hu : Said s u) : t = u :=
  congrArg Prod.fst (ht.read.symm.trans hu.read)

end ExplorerClient.Json
