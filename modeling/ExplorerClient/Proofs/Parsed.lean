import ExplorerClient.Json.Codec
import ExplorerClient.Proofs.Spelled

/-!
# What has been read

A text that the reader comes to the end of is one that the grammar knows, and the tree is what the
text says. Where the reader stops before, the tree cannot be passed over. So a form that only takes
values out of trees that can be passed over decodes nothing but whole texts.

Results:
* `ItemsRead.step`, `MembersRead.step`, `ValueRead.step`: the readers, from what they do with a step
  less.
* `all_read`: what the readers have made of a text, whatever the text is.
* `said_of_read`: a tree that can be passed over, and nothing behind it, is what the text says.
* `decode_eq_ok_iff`: a text decodes to what its tree holds.
-/

namespace ExplorerClient.Json

/-! ## Outcomes of the readers -/

/-- The reader of values has left what stands behind a value, or stopped. -/
inductive ValueRead (s : List UInt8) : Tree × Option (List UInt8) → Prop where
  | whole {gap w rest : List UInt8} {t : Tree} (blank : Blanks gap) (tells : Says w t)
    (split : s = gap ++ (w ++ rest)) : ValueRead s (t, some rest)
  | stopped {t : Tree} (faulty : t.passFault? ≠ none) : ValueRead s (t, none)

/-- The reader of the values of an array has left what stands behind the bracket, or stopped. -/
inductive ItemsRead (s : List UInt8) : List Tree × Option Halt × Option (List UInt8) → Prop where
  | whole {items : List (List UInt8 × Tree)} {w rest : List UInt8} (there : items ≠ [])
    (parts : Separated (items.map Prod.fst) w) (each : ∀ i ∈ items, Says i.1 i.2)
    (split : s = w ++ 0x5d :: rest) : ItemsRead s (items.map Prod.snd, none, some rest)
  | stopped {items : List Tree} {close : Option Halt}
    (faulty : (Tree.array items close).passFault? ≠ none) : ItemsRead s (items, close, none)

/-- The reader of the members of an object has left what stands behind the brace, or stopped. -/
inductive MembersRead (s : List UInt8) :
    List (Except Fault String × Tree) × Option Halt × Option (List UInt8) → Prop where
  | whole {members : List (Member × Except Fault String × Tree)} {w rest : List UInt8}
    (there : members ≠ []) (parts : Separated (members.map fun m => m.1.text) w)
    (named : ∀ m ∈ members, m.1.Named m.2.1) (each : ∀ m ∈ members, Says m.1.value m.2.2)
    (split : s = w ++ 0x7d :: rest) : MembersRead s (members.map Prod.snd, none, some rest)
  | stopped {members : List (Except Fault String × Tree)} {close : Option Halt}
    (faulty : (Tree.object members close).passFault? ≠ none) : MembersRead s (members, close, none)

theorem passFault?_array {items : List Tree} {close : Option Halt} :
    (Tree.array items close).passFault? ≠ none ↔
      itemsPassFault? items ≠ none ∨ close ≠ none := by
  rw [Tree.passFault?, Ne, Option.or_eq_none_iff, Option.map_eq_none_iff,
    Classical.not_and_iff_not_or_not]

theorem passFault?_object {members : List (Except Fault String × Tree)} {close : Option Halt} :
    (Tree.object members close).passFault? ≠ none ↔
      membersPassFault? members ≠ none ∨ close ≠ none := by
  rw [Tree.passFault?, Ne, Option.or_eq_none_iff, Option.map_eq_none_iff,
    Classical.not_and_iff_not_or_not]

theorem passFault?_halted (halt : Halt) : (Tree.halted halt).passFault? ≠ none := by
  simp [Tree.passFault?]

theorem ItemsRead.close {s : List UInt8} (items : List Tree) (halt : Halt) :
    ItemsRead s (items, some halt, none) :=
  .stopped (passFault?_array.mpr (Or.inr (Option.some_ne_none halt)))

theorem MembersRead.close {s : List UInt8} (members : List (Except Fault String × Tree))
    (halt : Halt) : MembersRead s (members, some halt, none) :=
  .stopped (passFault?_object.mpr (Or.inr (Option.some_ne_none halt)))

/-- In front of what is left stand blanks, and then its first byte that is not blank. -/
theorem exists_gap {s : List UInt8} {b : UInt8} {rest : List UInt8}
    (found : skipBlanks s = b :: rest) : ∃ gap, Blanks gap ∧ s = gap ++ b :: rest := by
  obtain ⟨gap, blank, split⟩ := exists_blanks s
  rw [found] at split
  exact ⟨gap, blank, split⟩

/-! ## Arrays -/

/-- The first value has been read and the array is closed behind it. -/
theorem ItemsRead.single {s w gap after rest : List UInt8} {t : Tree} (before : Blanks gap)
    (tells : Says w t) (behind : Blanks after) (split : s = gap ++ (w ++ (after ++ 0x5d :: rest))) :
    ItemsRead s ([t], none, some rest) := by
  have parts : Separated [w] (gap ++ (w ++ after)) := .last ⟨gap, after, before, behind, rfl⟩
  show ItemsRead s ([(w, t)].map Prod.snd, none, some rest)
  exact .whole (by simp) parts (by simpa using tells) (by simp [split])

/-- The first value has been read, and so is what stands behind the comma. -/
theorem ItemsRead.cons {s w gap after more : List UInt8} {t : Tree}
    {later : List Tree × Option Halt × Option (List UInt8)} (before : Blanks gap)
    (tells : Says w t) (behind : Blanks after) (split : s = gap ++ (w ++ (after ++ 0x2c :: more)))
    (read : ItemsRead more later) : ItemsRead s (t :: later.1, later.2.1, later.2.2) := by
  cases read with
  | @whole items w' rest there parts each split' =>
    obtain ⟨i, items, rfl⟩ := List.exists_cons_of_ne_nil there
    have parts' : Separated (w :: (i :: items).map Prod.fst) (gap ++ (w ++ after) ++ 0x2c :: w') :=
      .more ⟨gap, after, before, behind, rfl⟩ parts
    show ItemsRead s (((w, t) :: i :: items).map Prod.snd, none, some rest)
    exact .whole (by simp) parts'
      (List.forall_mem_cons.mpr ⟨tells, each⟩) (by simp [split, split'])
  | stopped faulty =>
    refine .stopped (passFault?_array.mpr ((passFault?_array.mp faulty).imp_left fun among => ?_))
    simp [itemsPassFault?, tells.passes, among]

/-- If values are read in some number of steps, and so is what stands behind a comma, then all
values of an array are read in one step more. -/
theorem ItemsRead.step {n : Nat} (value : ∀ s, ValueRead s (readValue n s))
    (items : ∀ s, ItemsRead s (readItems n s)) (s : List UInt8) :
    ItemsRead s (readItems (n + 1) s) := by
  have first := value s
  rw [readItems]
  split
  case h_1 item found =>
    rw [found] at first
    cases first with
    | stopped faulty => exact .stopped (passFault?_array.mpr (Or.inl (by simpa [itemsPassFault?])))
  case h_2 item rest found =>
    rw [found] at first
    cases first with
    | @whole gap w _ _ before tells split =>
      split
      case h_1 => exact .close _ _
      case h_2 b more behind =>
        obtain ⟨after, blank, rfl⟩ := exists_gap behind
        by_cases closed : b = 0x5d
        · subst closed
          rw [if_pos rfl]
          exact .single before tells blank split
        · rw [if_neg closed]
          by_cases comma : b = 0x2c
          · subst comma
            rw [if_pos rfl]
            exact .cons before tells blank split (items more)
          · rw [if_neg comma]
            exact .close _ _

/-! ## Objects -/

/-- The first member has been read and the object is closed behind it. -/
theorem MembersRead.single {s gap after rest : List UInt8} {m : Member}
    {name : Except Fault String} {t : Tree} (before : Blanks gap) (named : m.Named name)
    (tells : Says m.value t) (behind : Blanks after)
    (split : s = gap ++ (m.text ++ (after ++ 0x7d :: rest))) :
    MembersRead s ([(name, t)], none, some rest) := by
  have parts : Separated [m.text] (gap ++ (m.text ++ after)) :=
    .last ⟨gap, after, before, behind, rfl⟩
  show MembersRead s ([(m, name, t)].map Prod.snd, none, some rest)
  exact .whole (by simp) parts (by simpa using named)
    (by simpa using tells) (by simp [split])

/-- The first member has been read, and so is what stands behind the comma. -/
theorem MembersRead.cons {s gap after more : List UInt8} {m : Member} {name : Except Fault String}
    {t : Tree} {later : List (Except Fault String × Tree) × Option Halt × Option (List UInt8)}
    (before : Blanks gap) (named : m.Named name) (tells : Says m.value t) (behind : Blanks after)
    (split : s = gap ++ (m.text ++ (after ++ 0x2c :: more))) (read : MembersRead more later) :
    MembersRead s ((name, t) :: later.1, later.2.1, later.2.2) := by
  cases read with
  | @whole members w' rest there parts named' each split' =>
    obtain ⟨k, members, rfl⟩ := List.exists_cons_of_ne_nil there
    have parts' : Separated (m.text :: (k :: members).map fun m => m.1.text)
        (gap ++ (m.text ++ after) ++ 0x2c :: w') := .more ⟨gap, after, before, behind, rfl⟩ parts
    show MembersRead s (((m, name, t) :: k :: members).map Prod.snd, none, some rest)
    exact .whole (by simp) parts'
      (List.forall_mem_cons.mpr ⟨named, named'⟩) (List.forall_mem_cons.mpr ⟨tells, each⟩)
      (by simp [split, split'])
  | stopped faulty =>
    refine .stopped (passFault?_object.mpr ((passFault?_object.mp faulty).imp_left fun among => ?_))
    simp [membersPassFault?, tells.passes, among]

theorem MembersRead.faulty {s : List UInt8} {name : Except Fault String} {t : Tree}
    (faulty : t.passFault? ≠ none) : MembersRead s ([(name, t)], none, none) :=
  .stopped (passFault?_object.mpr (Or.inl (by simpa [membersPassFault?])))

theorem MembersRead.step {n : Nat} (value : ∀ s, ValueRead s (readValue n s))
    (members : ∀ s, MembersRead s (readMembers n s)) (s : List UInt8) :
    MembersRead s (readMembers (n + 1) s) := by
  rw [readMembers]
  split
  case h_1 => exact .close _ _
  case h_2 quote inner start =>
    obtain ⟨gap, before, rfl⟩ := exists_gap start
    by_cases opened : quote = 0x22
    case neg =>
      rw [if_neg opened]
      exact .close _ _
    subst opened
    rw [if_pos rfl]
    split
    case h_1 => exact .close _ _
    case h_2 name rest string =>
      obtain ⟨text, completed, rfl⟩ := readString_eq_ok_iff.mp string
      split
      case h_1 => exact .faulty (passFault?_halted _)
      case h_2 colon rest' found =>
        obtain ⟨front, blank, rfl⟩ := exists_gap found
        by_cases separates : colon = 0x3a
        case neg =>
          rw [if_neg separates]
          exact .faulty (passFault?_halted _)
        subst separates
        rw [if_pos rfl]
        have read := value rest'
        split
        case h_1 t stopped =>
          rw [stopped] at read
          cases read with
          | stopped faulty => exact .faulty faulty
        case h_2 t rest'' went =>
          rw [went] at read
          cases read with
          | @whole back w _ _ blank' tells split =>
            subst split
            have named : (Member.mk text front back w).Named name := ⟨completed, blank, blank'⟩
            split
            case h_1 => exact .close _ _
            case h_2 b more behind =>
              obtain ⟨after, blank'', rfl⟩ := exists_gap behind
              by_cases closed : b = 0x7d
              · subst closed
                rw [if_pos rfl]
                exact .single before named tells blank'' (by simp [Member.text])
              · rw [if_neg closed]
                by_cases comma : b = 0x2c
                · subst comma
                  rw [if_pos rfl]
                  exact .cons before named tells blank'' (by simp [Member.text]) (members more)
                · rw [if_neg comma]
                  exact .close _ _

/-! ## Values -/

theorem ValueRead.halted {s : List UInt8} (halt : Halt) : ValueRead s (.halted halt, none) :=
  .stopped (passFault?_halted halt)

theorem ValueRead.indent {gap s : List UInt8} {r : Tree × Option (List UInt8)} (blank : Blanks gap)
    (read : ValueRead s r) : ValueRead (gap ++ s) r := by
  cases read with
  | @whole gap' w rest t blank' tells split =>
    exact .whole (blank.append blank') tells (by simp [split])
  | stopped faulty => exact .stopped faulty

theorem ValueRead.word {t : Tree} {b : UInt8} (word s : List UInt8) (tells : Says (b :: word) t) :
    ValueRead (b :: s) (readWord t word s) := by
  suffices outcome : (∃ rest, readWord t word s = (t, some rest) ∧ s = word ++ rest) ∨
      ∃ halt, readWord t word s = (.halted halt, none) by
    obtain ⟨rest, read, rfl⟩ | ⟨halt, read⟩ := outcome <;> rw [read]
    · exact .whole blanks_nil tells rfl
    · exact .halted halt
  clear tells
  induction word generalizing s with
  | nil => exact Or.inl ⟨s, rfl, rfl⟩
  | cons w word ih =>
    cases s with
    | nil => exact Or.inr ⟨_, rfl⟩
    | cons c s =>
      rw [readWord]
      by_cases same : c = w
      · subst same
        rw [if_pos rfl]
        obtain ⟨rest, read, rfl⟩ | halted := ih s
        · exact Or.inl ⟨rest, read, rfl⟩
        · exact Or.inr halted
      · rw [if_neg same]
        exact Or.inr ⟨_, rfl⟩

theorem ValueRead.number (s : List UInt8) : ValueRead s (readNumber s) := by
  rw [readNumber]
  split
  case h_1 n rest read =>
    obtain ⟨w, text, rfl⟩ := exists_numeralText read
    exact .whole blanks_nil (.number text) rfl
  case h_2 => exact .halted _

theorem ValueRead.array {s : List UInt8} {r : List Tree × Option Halt × Option (List UInt8)}
    (read : ItemsRead s r) : ValueRead (0x5b :: s) (.array r.1 r.2.1, r.2.2) := by
  cases read with
  | whole there parts each split => exact .whole blanks_nil (.array parts each) (by simp [split])
  | stopped faulty => exact .stopped faulty

theorem ValueRead.object {s : List UInt8}
    {r : List (Except Fault String × Tree) × Option Halt × Option (List UInt8)}
    (read : MembersRead s r) : ValueRead (0x7b :: s) (.object r.1 r.2.1, r.2.2) := by
  cases read with
  | whole there parts named each split =>
    exact .whole blanks_nil (.object parts named each) (by simp [split])
  | stopped faulty => exact .stopped faulty

theorem ValueRead.step {n : Nat} (items : ∀ s, ItemsRead s (readItems n s))
    (members : ∀ s, MembersRead s (readMembers n s)) (s : List UInt8) :
    ValueRead s (readValue (n + 1) s) := by
  rw [readValue]
  split
  case h_1 => exact .halted _
  case h_2 b rest start =>
    obtain ⟨gap, before, rfl⟩ := exists_gap start
    refine ValueRead.indent before ?_
    by_cases array : b = 0x5b
    · subst array
      rw [if_pos rfl]
      split
      case h_1 rest' closed =>
        obtain ⟨inner, blank, rfl⟩ := exists_gap closed
        have tells : Says (0x5b :: (inner ++ [0x5d])) (.array [] none) :=
          @Says.array inner [] (.none blank) (by simp)
        exact .whole blanks_nil tells (by simp)
      case h_2 => exact .array (items rest)
    rw [if_neg array]
    by_cases object : b = 0x7b
    · subst object
      rw [if_pos rfl]
      split
      case h_1 rest' closed =>
        obtain ⟨inner, blank, rfl⟩ := exists_gap closed
        have tells : Says (0x7b :: (inner ++ [0x7d])) (.object [] none) :=
          @Says.object inner [] (.none blank) (by simp) (by simp)
        exact .whole blanks_nil tells (by simp)
      case h_2 => exact .object (members rest)
    rw [if_neg object]
    by_cases text : b = 0x22
    · subst text
      rw [if_pos rfl]
      split
      case h_1 v rest' string =>
        obtain ⟨w, completed, rfl⟩ := readString_eq_ok_iff.mp string
        exact .whole blanks_nil (.text completed) rfl
      case h_2 => exact .halted _
    rw [if_neg text]
    split
    · exact .number _
    · split
      · rename_i letter
        subst letter
        exact .word _ _ .null
      · split
        · rename_i letter
          subst letter
          exact .word _ _ (.bool true)
        · split
          · rename_i letter
            subst letter
            exact .word _ _ (.bool false)
          · exact .halted _

/-- What the readers make of any text in so many steps. -/
theorem all_read (n : Nat) : (∀ s, ValueRead s (readValue n s)) ∧
    (∀ s, ItemsRead s (readItems n s)) ∧ ∀ s, MembersRead s (readMembers n s) := by
  -- the readers call each other with one step less, so one induction carries all three
  induction n with
  | zero => exact ⟨fun _ => .halted _, fun _ => .close _ _, fun _ => .close _ _⟩
  | succ n ih =>
    obtain ⟨value, items, members⟩ := ih
    exact ⟨.step items members, .step value items, .step value members⟩

/-! ## Whole texts -/

/-- A tree that can be passed over, with nothing but blanks behind it, is what the text says. -/
theorem said_of_read {s : List UInt8} {t : Tree} (found : read s = (t, true))
    (passes : t.passFault? = none) : Said s t := by
  have outcome := (all_read (2 * s.length + 2)).1 s
  rw [read] at found
  split at found
  case h_1 tree rest went =>
    rw [went] at outcome
    obtain ⟨rfl, alone⟩ := Prod.mk.inj found
    cases outcome with
    | @whole gap w _ _ blank tells split =>
      obtain ⟨after, blank', behind⟩ := exists_blanks rest
      rw [List.isEmpty_iff.mp alone, List.append_nil] at behind
      exact ⟨w, ⟨gap, after, blank, behind ▸ blank', behind ▸ split⟩, tells⟩
  case h_2 tree stopped =>
    rw [stopped] at outcome
    obtain ⟨rfl, -⟩ := Prod.mk.inj found
    cases outcome with
    | stopped faulty => exact absurd passes faulty

/-- The form takes values only out of trees that can be passed over. -/
def Codec.Careful {α : Type} (c : Codec α) : Prop :=
  ∀ n t a, c.read n t = .ok a → t.passFault? = none

theorem decode_of_said {α : Type} (c : Codec α) {s : List UInt8} {t : Tree} (said : Said s t) :
    decode c s = c.read Codec.maxDepth t := by
  rw [decode, said.read]
  cases taken : c.read Codec.maxDepth t <;> simp [taken, bind, Except.bind, pure, Except.pure]

/-- A text decodes to what its tree holds, and has to be whole. -/
theorem decode_eq_ok_iff {α : Type} {c : Codec α} (careful : c.Careful) {s : List UInt8} {a : α} :
    decode c s = .ok a ↔ ∃ t, Said s t ∧ c.read Codec.maxDepth t = .ok a := by
  constructor
  · intro decoded
    rw [decode] at decoded
    generalize found : read s = outcome at decoded
    obtain ⟨t, alone⟩ := outcome
    obtain ⟨value, taken, ended⟩ := exists_ok_of_bind decoded
    cases alone with
    | false => cases ended
    | true =>
      cases ended
      exact ⟨t, said_of_read found (careful _ _ _ taken), taken⟩
  · rintro ⟨t, said, taken⟩
    rw [decode_of_said c said, taken]

end ExplorerClient.Json
