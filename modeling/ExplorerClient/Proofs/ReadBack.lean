import ExplorerClient.Json.Codec
import ExplorerClient.Proofs.Spelled

/-!
# Values that are written and read back

The text of a value says a tree that is the value again, unless the value holds a number that is not
whole or too large. Taking any value out of that tree gives the value, unless it is too deep or
names a member of an object twice.

Results:
* `says_render`: the text of a value says its tree.
* `readAny_tree`: a value is taken out of its tree.
* `decode_render`: the text of a value is read back as that value.
* `decode_texts`: so is an object that holds a list of texts.
-/

namespace ExplorerClient.Json

/-! ## Strings and whole numbers -/

theorem completed_inside (s : String) : Quotation.Completed {} (inside s ++ [0x22]) (.ok s) := by
  have read := readString_inside s []
  obtain ⟨w, completed, split⟩ := readString_eq_ok_iff.mp read
  rw [List.append_nil] at split
  rwa [split]

theorem says_quote (s : String) : Says (utf8 (quote s)) (.text (.ok s)) := by
  rw [utf8_quote]
  exact .text (completed_inside s)

/-- The digits of a number, as bytes. -/
def numeral (m : Nat) : List UInt8 := (Nat.toDigits 10 m).map fun c => UInt8.ofNat c.toNat

theorem digitChar_byte : ∀ n : Fin 128, (Char.ofNat n).isDigit = true →
    isDigit (UInt8.ofNat n) = true := by
  decide

theorem toDigits_small {m : Nat} {c : Char} (h : c ∈ Nat.toDigits 10 m) :
    c.isDigit = true ∧ c.toNat < 128 := by
  have digit := Nat.isDigit_of_mem_toDigits (by decide) (by decide) h
  have bounds := digit
  simp only [Char.isDigit, Bool.and_eq_true, decide_eq_true_eq] at bounds
  have high : c.toNat ≤ 57 := bounds.2
  exact ⟨digit, by omega⟩

theorem utf8_repr (m : Nat) : utf8 m.repr = numeral m := by
  have bytes : ∀ c ∈ Nat.toDigits 10 m, String.utf8EncodeChar c = [UInt8.ofNat c.toNat] := by
    intro c hc
    have ascii := Text.utf8EncodeChar_ascii ⟨c.toNat, (toDigits_small hc).2⟩
    simpa using ascii
  rw [utf8_eq, Nat.toList_repr, numeral, List.map_eq_flatMap, List.flatMap_def, List.flatMap_def,
    List.map_congr_left bytes]

theorem numeral_digits (m : Nat) : ∀ b ∈ numeral m, isDigit b = true := by
  intro b hb
  obtain ⟨c, hc, rfl⟩ := List.mem_map.mp hb
  obtain ⟨digit, small⟩ := toDigits_small hc
  have byte := digitChar_byte ⟨c.toNat, small⟩
  simp only [Char.ofNat_toNat] at byte
  exact byte digit

theorem numeral_ne_nil (m : Nat) : numeral m ≠ [] := by
  simp [numeral, Nat.toDigits_ne_nil]

theorem digitsValue_numeral (m : Nat) : digitsValue (numeral m) = m := by
  have same : (numeral m).map (fun b => Char.ofNat b.toNat) = Nat.toDigits 10 m := by
    rw [numeral, List.map_map]
    refine (List.map_congr_left fun c hc => ?_).trans (List.map_id _)
    have small := (toDigits_small hc).2
    simp only [Function.comp_apply, id_eq, UInt8.toNat_ofNat']
    rw [Nat.mod_eq_of_lt (by omega), Char.ofNat_toNat]
  rw [digitsValue, same, Nat.ofDigitChars_toDigits (by decide) (by decide)]

theorem toDigits_head {m : Nat} (positive : 0 < m) : ∀ tail, Nat.toDigits 10 m ≠ '0' :: tail := by
  induction m using Nat.strongRecOn with
  | ind m ih =>
    intro tail zero
    by_cases small : m < 10
    · rw [Nat.toDigits_of_lt_base small] at zero
      have digits : ∀ d : Fin 10, 0 < d.val → d.val.digitChar ≠ '0' := by decide
      exact digits ⟨m, small⟩ positive (List.cons.inj zero).1
    · -- the first digit is that of the tenth part, which is not zero either
      rw [Nat.toDigits_of_base_le (by decide) (by omega)] at zero
      cases front : Nat.toDigits 10 (m / 10) with
      | nil => exact Nat.toDigits_ne_nil front
      | cons c more =>
        rw [front] at zero
        have first : c = '0' := (List.cons.inj zero).1
        exact ih (m / 10) (by omega) (by omega) more (by rw [front, first])

/-- A number of several digits does not begin with a zero. -/
theorem numeral_no_zero (m : Nat) (b : UInt8) (tail : List UInt8) :
    numeral m ≠ 0x30 :: b :: tail := by
  intro zero
  obtain ⟨c, cs, split, first, more⟩ := List.map_eq_cons_iff.mp zero
  have small : c.toNat < 128 := (toDigits_small (m := m) (by simp [split])).2
  have is_zero : c = '0' := by
    have value := congrArg UInt8.toNat first
    rw [UInt8.toNat_ofNat', Nat.mod_eq_of_lt (by omega)] at value
    exact Char.toNat_inj.mp value
  rcases Nat.eq_zero_or_pos m with rfl | positive
  · rw [Nat.toDigits_zero] at split
    cases split
    cases more
  · exact toDigits_head positive cs (by rw [split, is_zero])

theorem wholeDigits_numeral (m : Nat) : WholeDigits (numeral m) :=
  ⟨⟨numeral_ne_nil m, numeral_digits m⟩, numeral_no_zero m⟩

/-- A sign, if there is one, and the digits. -/
theorem numeralText_numeral (m : Nat) (negative : Bool) :
    NumeralText ((if negative then [0x2d] else []) ++ numeral m)
      ⟨negative, numeral m, [], 0, true⟩ := by
  have text := NumeralText.parts negative (wholeDigits_numeral m) .none .none
  rwa [List.append_nil, List.append_nil] at text

theorem says_int {n : Int} (low : -0x8000000000000000 ≤ n) (high : n < 0x10000000000000000) :
    Says (utf8 (Int.repr n)) (.number (.ok (.int n))) := by
  cases n with
  | ofNat m =>
    have shape : utf8 (Int.repr (.ofNat m)) = numeral m := utf8_repr m
    have value : Numeral.value ⟨false, numeral m, [], 0, true⟩ = .ok (.int m) := by
      have fits : m < 0x10000000000000000 := Int.ofNat_lt.mp high
      simp [Numeral.value, digitsValue_numeral, fits]
    rw [shape, Int.ofNat_eq_natCast, ← value]
    exact .number (numeralText_numeral m false)
  | negSucc m =>
    have shape : utf8 (Int.repr (.negSucc m)) = 0x2d :: numeral (m + 1) := by
      rw [← utf8_repr]
      exact utf8_append "-" _
    have value : Numeral.value ⟨true, numeral (m + 1), [], 0, true⟩ = .ok (.int (.negSucc m)) := by
      have fits : m + 1 ≤ 0x8000000000000000 := by omega
      simp [Numeral.value, digitsValue_numeral, fits, Int.negSucc_eq]
    rw [shape, ← value]
    exact .number (numeralText_numeral (m + 1) true)

/-! ## Values -/

mutual

/-- The tree of a value. -/
def Value.tree : Value → Tree
  | .null => .null
  | .bool value => .bool value
  | .number value => .number (.ok value)
  | .text value => .text (.ok value)
  | .array items => .array (treeItems items) none
  | .object members => .object ((treeMembers members).map fun m => (.ok m.1, m.2)) none

/-- The trees of the values of an array. -/
def treeItems : List Value → List Tree
  | [] => []
  | v :: rest => v.tree :: treeItems rest

/-- The trees of the members of an object. -/
def treeMembers : List (String × Value) → List (String × Tree)
  | [] => []
  | (name, v) :: rest => (name, v.tree) :: treeMembers rest

end

mutual

/-- All numbers are whole, and 64 bits can hold them. -/
def Value.Whole : Value → Prop
  | .number (.int n) => -0x8000000000000000 ≤ n ∧ n < 0x10000000000000000
  | .number (.float _) => False
  | .array items => WholeItems items
  | .object members => WholeMembers members
  | _ => True

/-- All numbers in the values of an array are whole. -/
def WholeItems : List Value → Prop
  | [] => True
  | v :: rest => v.Whole ∧ WholeItems rest

/-- All numbers in the members of an object are whole. -/
def WholeMembers : List (String × Value) → Prop
  | [] => True
  | (_, v) :: rest => v.Whole ∧ WholeMembers rest

end

/-! ## The texts of values -/

theorem commas_singleton (a : String) : commas [a] = a := String.intercalate_singleton

theorem utf8_commas_cons (a b : String) (rest : List String) :
    utf8 (commas (a :: b :: rest)) = utf8 a ++ 0x2c :: utf8 (commas (b :: rest)) := by
  rw [commas, String.intercalate_cons_cons, utf8_append, utf8_append, List.append_assoc]
  rfl

theorem separated_commas (texts : List String) :
    Separated (texts.map utf8) (utf8 (commas texts)) := by
  induction texts with
  | nil => exact .none blanks_nil
  | cons a texts ih =>
    cases texts with
    | nil =>
      rw [commas_singleton]
      exact .last (padded_self _)
    | cons b texts =>
      rw [utf8_commas_cons]
      exact .more (padded_self _) ih

/-- A member as it is written. -/
def writtenMember (m : String × Value) : Member := ⟨inside m.1 ++ [0x22], [], [], utf8 m.2.render⟩

theorem named_writtenMember (m : String × Value) : (writtenMember m).Named (.ok m.1) :=
  ⟨completed_inside m.1, blanks_nil, blanks_nil⟩

theorem renderItems_eq (items : List Value) : renderItems items = items.map Value.render := by
  induction items with
  | nil => rfl
  | cons v items ih => rw [renderItems, ih, List.map_cons]

theorem renderMembers_texts (members : List (String × Value)) :
    (renderMembers members).map utf8 = members.map fun m => (writtenMember m).text := by
  induction members with
  | nil => rfl
  | cons m members ih =>
    obtain ⟨name, v⟩ := m
    rw [renderMembers, List.map_cons, ih, List.map_cons]
    simp [writtenMember, Member.text, utf8_quote, show utf8 ":" = [0x3a] from rfl]

theorem treeItems_eq (items : List Value) : treeItems items = items.map Value.tree := by
  induction items with
  | nil => rfl
  | cons v items ih => rw [treeItems, ih, List.map_cons]

theorem treeMembers_eq (members : List (String × Value)) :
    treeMembers members = members.map fun m => (m.1, m.2.tree) := by
  induction members with
  | nil => rfl
  | cons m members ih => rw [treeMembers, ih, List.map_cons]

theorem says_array {items : List Value} (each : ∀ v ∈ items, Says (utf8 v.render) v.tree) :
    Says (utf8 (Value.array items).render) (Value.array items).tree := by
  have parts : Separated ((items.map fun v => (utf8 v.render, v.tree)).map Prod.fst)
      (utf8 (commas (renderItems items))) := by
    have separated := separated_commas (renderItems items)
    rw [renderItems_eq] at separated ⊢
    simpa [Function.comp_def] using separated
  have tells := Says.array parts (by
    rintro i there
    obtain ⟨v, among, rfl⟩ := List.mem_map.mp there
    exact each v among)
  rw [Value.render, utf8_append, utf8_append, Value.tree, treeItems_eq, List.append_assoc]
  simpa [Function.comp_def, show utf8 "[" = [0x5b] from rfl, show utf8 "]" = [0x5d] from rfl]
    using tells

theorem says_object {members : List (String × Value)}
    (each : ∀ m ∈ members, Says (utf8 m.2.render) m.2.tree) :
    Says (utf8 (Value.object members).render) (Value.object members).tree := by
  have parts : Separated
      ((members.map fun m => (writtenMember m, (.ok m.1 : Except Fault String), m.2.tree)).map
        fun m => m.1.text) (utf8 (commas (renderMembers members))) := by
    have separated := separated_commas (renderMembers members)
    rw [renderMembers_texts] at separated
    simpa [Function.comp_def] using separated
  have tells := Says.object parts (by
    rintro i there
    obtain ⟨m, -, rfl⟩ := List.mem_map.mp there
    exact named_writtenMember m) (by
    rintro i there
    obtain ⟨m, among, rfl⟩ := List.mem_map.mp there
    exact each m among)
  rw [Value.render, utf8_append, utf8_append, Value.tree, treeMembers_eq, List.append_assoc]
  simpa [Function.comp_def, show utf8 "\x7b" = [0x7b] from rfl,
    show utf8 "\x7d" = [0x7d] from rfl] using tells

mutual

/-- The text of a value says its tree. -/
theorem says_render : ∀ v : Value, v.Whole → Says (utf8 v.render) v.tree
  | .null, _ => by
    rw [Value.render, Value.tree]
    exact .null
  | .bool value, _ => by
    rw [Value.tree]
    exact .bool value
  | .number (.int n), whole => by
    rw [Value.Whole] at whole
    rw [Value.render, Value.tree]
    exact says_int whole.1 whole.2
  | .number (.float _), whole => by
    rw [Value.Whole] at whole
    exact whole.elim
  | .text value, _ => by
    rw [Value.render, Value.tree]
    exact says_quote value
  | .array items, whole => by
    rw [Value.Whole] at whole
    exact says_array (saysItems_render items whole)
  | .object members, whole => by
    rw [Value.Whole] at whole
    exact says_object (saysMembers_render members whole)

theorem saysItems_render : ∀ items : List Value, WholeItems items →
    ∀ v ∈ items, Says (utf8 v.render) v.tree
  | [], _ => fun _ there => absurd there List.not_mem_nil
  | v :: items, whole => by
    rw [WholeItems] at whole
    exact List.forall_mem_cons.mpr ⟨says_render v whole.1, saysItems_render items whole.2⟩

theorem saysMembers_render : ∀ members : List (String × Value), WholeMembers members →
    ∀ m ∈ members, Says (utf8 m.2.render) m.2.tree
  | [], _ => fun _ there => absurd there List.not_mem_nil
  | (name, v) :: members, whole => by
    rw [WholeMembers] at whole
    exact List.forall_mem_cons.mpr ⟨says_render v whole.1, saysMembers_render members whole.2⟩

end

/-! ## Any value -/

mutual

/-- Arrays and objects are no deeper than that, and no object names a member twice. -/
def Value.Opens : Value → Nat → Prop
  | .array items, depth => 0 < depth ∧ OpensItems items (depth - 1)
  | .object members, depth =>
    0 < depth ∧ (members.map (·.1)).Nodup ∧ OpensMembers members (depth - 1)
  | _, _ => True

/-- The values of an array are no deeper than that. -/
def OpensItems : List Value → Nat → Prop
  | [], _ => True
  | v :: rest, depth => v.Opens depth ∧ OpensItems rest depth

/-- The values of the members of an object are no deeper than that. -/
def OpensMembers : List (String × Value) → Nat → Prop
  | [], _ => True
  | (_, v) :: rest, depth => v.Opens depth ∧ OpensMembers rest depth

end

theorem putMember_new {name : String} (v : Value) {done : List (String × Value)}
    (new : name ∉ done.map (·.1)) : putMember name v done = done ++ [(name, v)] := by
  induction done with
  | nil => rfl
  | cons m done ih =>
    obtain ⟨n, u⟩ := m
    simp only [List.map_cons, List.mem_cons, not_or] at new
    rw [putMember, if_neg (fun same => new.1 same.symm), ih new.2]
    rfl

mutual

/-- A value is taken out of its tree. -/
theorem readAny_tree : ∀ (v : Value) (depth : Nat), v.Opens depth → readAny depth v.tree = .ok v
  | .null, depth, _ => by rw [Value.tree, readAny]
  | .bool value, depth, _ => by rw [Value.tree, readAny]
  | .number value, depth, _ => by
    rw [Value.tree, readAny]
    rfl
  | .text value, depth, _ => by
    rw [Value.tree, readAny]
    rfl
  | .array items, depth, opens => by
    rw [Value.Opens] at opens
    obtain ⟨n, rfl⟩ : ∃ n, depth = n + 1 := ⟨depth - 1, by omega⟩
    have found := readAnyItems_tree items n opens.2
    rw [Value.tree, readAny]
    simp only [found]
    rfl
  | .object members, depth, opens => by
    rw [Value.Opens] at opens
    obtain ⟨n, rfl⟩ : ∃ n, depth = n + 1 := ⟨depth - 1, by omega⟩
    have found := readAnyMembers_tree members n [] opens.2.1 opens.2.2
    rw [Value.tree, readAny]
    simp only [found]
    rfl

theorem readAnyItems_tree : ∀ (items : List Value) (depth : Nat), OpensItems items depth →
    readAnyItems depth (treeItems items) = .ok items
  | [], depth, _ => by rw [treeItems, readAnyItems]
  | v :: rest, depth, opens => by
    rw [OpensItems] at opens
    rw [treeItems, readAnyItems, readAny_tree v depth opens.1,
      readAnyItems_tree rest depth opens.2]
    rfl

theorem readAnyMembers_tree : ∀ (members : List (String × Value)) (depth : Nat)
    (done : List (String × Value)), ((done ++ members).map (·.1)).Nodup →
    OpensMembers members depth →
    readAnyMembers depth done ((treeMembers members).map fun m => (.ok m.1, m.2)) =
      .ok (done ++ members)
  | [], depth, done, _, _ => by
    rw [treeMembers, List.map_nil, readAnyMembers, List.append_nil]
  | (name, v) :: rest, depth, done, distinct, opens => by
    rw [OpensMembers] at opens
    have new : name ∉ done.map (·.1) := by
      rw [List.map_append, List.nodup_append] at distinct
      intro there
      exact distinct.2.2 name there name (by simp) rfl
    have later := readAnyMembers_tree rest depth (done ++ [(name, v)])
      (by simpa [List.append_assoc] using distinct) opens.2
    rw [treeMembers, List.map_cons, readAnyMembers, readAny_tree v depth opens.1]
    simp only [bind, Except.bind]
    rw [putMember_new v new, later, List.append_assoc]
    rfl

end

/-- The text of a value is read back as that value. -/
theorem decode_render {v : Value} (whole : v.Whole) (opens : v.Opens Codec.maxDepth) :
    decode Codec.any (utf8 v.render) = .ok v := by
  have taken : Codec.any.read Codec.maxDepth v.tree = .ok v :=
    readAny_tree v Codec.maxDepth opens
  rw [decode, (says_render v whole).said.read]
  simp only [taken]
  rfl

/-! ## Lists of texts -/

theorem wholeItems_texts (xs : List String) : WholeItems (xs.map .text) := by
  induction xs with
  | nil => rw [List.map_nil, WholeItems]; trivial
  | cons x xs ih =>
    rw [List.map_cons, WholeItems]
    exact ⟨by rw [Value.Whole] <;> simp, ih⟩

theorem opensItems_texts (xs : List String) (depth : Nat) : OpensItems (xs.map .text) depth := by
  induction xs with
  | nil => rw [List.map_nil, OpensItems]; trivial
  | cons x xs ih =>
    rw [List.map_cons, OpensItems]
    exact ⟨by rw [Value.Opens] <;> simp, ih⟩

/-- An object with one member that is a list of texts. -/
theorem decode_texts (name : String) (xs : List String) :
    decode Codec.any (utf8 (Value.object [(name, .texts xs)]).render) =
      .ok (.object [(name, .texts xs)]) := by
  refine decode_render ?_ ?_
  · simp only [Value.Whole, WholeMembers, Value.texts]
    exact ⟨wholeItems_texts xs, trivial⟩
  · simp only [Value.Opens, OpensMembers, Value.texts]
    refine ⟨by decide, by simp, ⟨by decide, opensItems_texts xs _⟩, trivial⟩

end ExplorerClient.Json
