import ExplorerClient.Proofs.Quoted
import ExplorerClient.Proofs.Written

/-!
# Templates filled with arguments

The places of a template are looked for from left to right, each one behind the one before. What
stands between them are the pieces of the template. Filling a template puts an argument between each
two pieces, and what has been put in is never looked at again.

Results:
* `Cut.unique`: a list is cut into its pieces in one way.
* `cut_ofChars`, `cut_bytesOf`: a template has these pieces, and so have its bytes.
* `Filled.unique`: pieces are filled in one way.
* `expand_filled`: which arguments a template takes, and what comes of each list of arguments.
-/

namespace ExplorerClient.Route

/-! ## Pieces between marks -/

/-- The pieces of a list between the places where a mark stands. The first place is the first at
which the mark begins, and the others are those of what follows the mark there. -/
inductive Cut {α : Type} (mark : List α) : List α → List (List α) → Prop where
  | last {cs : List α} (nowhere : ∀ i, ¬ mark <+: cs.drop i) : Cut mark cs [cs]
  | place {cs : List α} {pieces : List (List α)} {i : Nat} (found : mark <+: cs.drop i)
    (first : ∀ j < i, ¬ mark <+: cs.drop j) (behind : Cut mark (cs.drop (i + mark.length)) pieces) :
    Cut mark cs (cs.take i :: pieces)

namespace Cut

variable {α : Type} {mark cs : List α} {pieces : List (List α)}

theorem unique {others : List (List α)} (h : Cut mark cs pieces) (h' : Cut mark cs others) :
    pieces = others := by
  induction h generalizing others with
  | last nowhere =>
    cases h' with
    | last _ => rfl
    | place found _ _ => exact absurd found (nowhere _)
  | @place cs pieces i found first behind ih =>
    cases h' with
    | last nowhere => exact absurd found (nowhere _)
    | @place _ others j found' first' behind' =>
      -- neither of two first places is in front of the other
      obtain rfl : i = j := by
        rcases Nat.lt_trichotomy i j with before | same | before
        · exact absurd found (first' i before)
        · exact same
        · exact absurd found' (first j before)
      rw [ih behind']

theorem cons {c : α} {piece : List α} (other : ¬ mark <+: c :: cs)
    (h : Cut mark cs (piece :: pieces)) : Cut mark (c :: cs) ((c :: piece) :: pieces) := by
  cases h with
  | last nowhere =>
    refine .last fun i => ?_
    cases i with
    | zero => exact other
    | succ i => exact nowhere i
  | @place _ _ i found first behind =>
    have cut : Cut mark ((c :: cs).drop (i + 1 + mark.length)) pieces := by
      rw [Nat.add_right_comm]
      exact behind
    refine .place (i := i + 1) found (fun j hj => ?_) cut
    cases j with
    | zero => exact other
    | succ j => exact first j (by omega)

/-- Behind a stretch in which the mark does not begin the places are the same. -/
theorem append {front piece : List α}
    (free : ∀ i < front.length, ¬ mark <+: (front ++ cs).drop i)
    (h : Cut mark cs (piece :: pieces)) : Cut mark (front ++ cs) ((front ++ piece) :: pieces) := by
  induction front with
  | nil => exact h
  | cons c front ih =>
    refine (ih fun i hi => free (i + 1) ?_).cons (free 0 (Nat.zero_lt_succ _))
    rw [List.length_cons]
    omega

theorem start (h : Cut mark cs pieces) : Cut mark (mark ++ cs) ([] :: pieces) := by
  refine .place (i := 0) (List.prefix_append mark cs) (fun j hj => absurd hj (Nat.not_lt_zero j)) ?_
  rw [Nat.zero_add, List.drop_left]
  exact h

end Cut

/-! ## Places of a template -/

/-- What stands at a place. -/
def place : List Char := ['\x7b', '\x7d']

/-- The bytes of what stands at a place. -/
def placeBytes : List UInt8 := [0x7b, 0x7d]

/-- The pieces of a template, in order. -/
def Template.pieces (t : Template) : List (List Char) := t.first :: t.others

/-- The bytes of characters. -/
def bytesOf (cs : List Char) : List UInt8 := (String.ofList cs).toUTF8.data.toList

theorem bytesOf_eq (cs : List Char) : bytesOf cs = cs.flatMap String.utf8EncodeChar := by
  rw [bytesOf, toUTF8_data_toList, String.toList_ofList]

theorem bytesOf_append (cs ds : List Char) : bytesOf (cs ++ ds) = bytesOf cs ++ bytesOf ds := by
  rw [bytesOf_eq, bytesOf_eq, bytesOf_eq, List.flatMap_append]

theorem cut_ofChars (cs : List Char) : Cut place cs (Template.ofChars cs).pieces := by
  fun_induction Template.ofChars cs with
  | case1 =>
    refine .last fun i found => ?_
    rw [List.drop_nil] at found
    exact absurd (List.prefix_nil.mp found) (List.cons_ne_nil _ _)
  | case2 rest t ih => exact ih.start
  | case3 c rest other t ih =>
    refine ih.cons fun found => ?_
    obtain ⟨tail, same⟩ := found
    simp only [place, List.cons_append, List.nil_append, List.cons.injEq] at same
    exact other tail same.1.symm same.2.symm

/-- A byte of ASCII is in no other character than its own. -/
theorem eq_of_small_byte {c d : Char} (small : d.toNat < 128)
    (mem : UInt8.ofNat d.toNat ∈ String.utf8EncodeChar c) : c = d := by
  have value := toNat_smallByte small
  by_cases plain : c.toNat < 128
  · rw [utf8EncodeChar_small plain] at mem
    have same := congrArg UInt8.toNat (List.mem_singleton.mp mem)
    rw [value, toNat_smallByte plain] at same
    exact Char.toNat_inj.mp same.symm
  · have beyond := Json.utf8EncodeChar_large (by omega) _ mem
    omega

theorem head_bytesOf {cs : List Char} {d : Char} (small : d.toNat < 128)
    (first : (bytesOf cs).head? = some (UInt8.ofNat d.toNat)) : ∃ rest, cs = d :: rest := by
  rw [bytesOf_eq] at first
  cases cs with
  | nil => cases first
  | cons c rest =>
    have own : UInt8.ofNat d.toNat ∈ String.utf8EncodeChar c := by
      rw [List.flatMap_cons, List.head?_append] at first
      cases bytes : (String.utf8EncodeChar c).head? with
      | none => exact absurd (List.head?_eq_none_iff.mp bytes) String.utf8EncodeChar_ne_nil
      | some b =>
        rw [bytes, Option.some_or, Option.some.injEq] at first
        exact first ▸ List.mem_of_head? bytes
    exact ⟨rest, by rw [eq_of_small_byte small own]⟩

/-- No place begins inside a character, and none with a character that is not an opening brace or
has no closing one behind it. -/
theorem no_place_within {c : Char} {rest : List Char}
    (other : ∀ tail, c = '\x7b' → rest = '\x7d' :: tail → False) {i : Nat}
    (within : i < (String.utf8EncodeChar c).length) :
    ¬ placeBytes <+: (String.utf8EncodeChar c ++ bytesOf rest).drop i := by
  rintro ⟨after, found⟩
  have inside : (String.utf8EncodeChar c)[i] = 0x7b := by
    have first := congrArg List.head? found
    rw [List.drop_append_of_le_length (Nat.le_of_lt within), List.drop_eq_getElem_cons within]
      at first
    exact (Option.some.inj first).symm
  obtain rfl : c = '\x7b' := by
    have member := List.getElem_mem within
    rw [inside] at member
    exact eq_of_small_byte (by decide) member
  obtain rfl : i = 0 := by
    have one : (String.utf8EncodeChar '\x7b').length = 1 := by decide
    omega
  have behind : bytesOf rest = 0x7d :: after := (List.cons.inj found).2.symm
  obtain ⟨tail, closing⟩ := head_bytesOf (d := '\x7d') (by decide) (by rw [behind]; rfl)
  exact other tail rfl closing

theorem cut_bytesOf (cs : List Char) :
    Cut placeBytes (bytesOf cs) ((Template.ofChars cs).pieces.map bytesOf) := by
  fun_induction Template.ofChars cs with
  | case1 =>
    refine .last fun i found => ?_
    rw [show bytesOf [] = [] from rfl, List.drop_nil] at found
    exact absurd (List.prefix_nil.mp found) (List.cons_ne_nil _ _)
  | case2 rest t ih =>
    have bytes : bytesOf ('\x7b' :: '\x7d' :: rest) = placeBytes ++ bytesOf rest :=
      bytesOf_append place rest
    rw [bytes]
    exact ih.start
  | case3 c rest other t ih =>
    have bytes (cs : List Char) : bytesOf (c :: cs) = String.utf8EncodeChar c ++ bytesOf cs := by
      rw [bytesOf_eq, bytesOf_eq, List.flatMap_cons]
    rw [Template.pieces, List.map_cons, bytes, bytes]
    exact Cut.append (fun i within => no_place_within other within) ih

/-! ## Filling -/

/-- An argument as it is put into a template: a text is escaped, a whole number is written in
decimal behind its sign. -/
def Argument.rendered : Argument → List Char
  | .text value => (escape value).toList
  | .number value =>
    if value < 0 then '-' :: Nat.toDigits 10 value.natAbs else Nat.toDigits 10 value.natAbs

/-- Pieces with arguments between them, in order. -/
inductive Filled : List (List Char) → List Argument → List Char → Prop where
  | last (piece : List Char) : Filled [piece] [] piece
  | place {pieces : List (List Char)} {args : List Argument} {text : List Char}
    (piece : List Char) (arg : Argument) (behind : Filled pieces args text) :
    Filled (piece :: pieces) (arg :: args) (piece ++ arg.rendered ++ text)

theorem rendered_eq (a : Argument) : a.rendered = a.written.toList := by
  cases a with
  | text value => rfl
  | number n =>
    cases n with
    | ofNat n =>
      have positive : ¬ Int.ofNat n < 0 := Int.not_lt.mpr (Int.natCast_nonneg n)
      rw [Argument.rendered, if_neg positive, Argument.written, Int.repr, Nat.toList_repr]
      rfl
    | negSucc n =>
      rw [Argument.rendered, if_pos (Int.negSucc_lt_zero n), Argument.written, Int.repr,
        String.toList_append, Nat.toList_repr]
      rfl

theorem no_brace_rendered (a : Argument) : '\x7b' ∉ a.rendered := by
  rw [rendered_eq]
  exact fun brace => ((written_verbatim a).plain brace).noBrace rfl

namespace Filled

variable {pieces : List (List Char)} {args : List Argument} {text : List Char}

theorem length (h : Filled pieces args text) : args.length + 1 = pieces.length := by
  induction h with
  | last => rfl
  | place _ _ _ ih => rw [List.length_cons, List.length_cons, ih]

theorem unique {other : List Char} (h : Filled pieces args text) (h' : Filled pieces args other) :
    text = other := by
  induction h generalizing other with
  | last => cases h' with | last => rfl
  | place _ _ _ ih => cases h' with | place _ _ behind => rw [ih behind]

end Filled

theorem filled_fill (t : Template) {args : List Argument} (enough : args.length = t.places) :
    Filled t.pieces args (t.fill args) := by
  obtain ⟨first, others⟩ := t
  induction args generalizing first others with
  | nil =>
    obtain rfl : others = [] := List.eq_nil_of_length_eq_zero enough.symm
    rw [show Template.fill ⟨first, []⟩ [] = first from List.append_nil first]
    exact .last first
  | cons a args ih =>
    cases others with
    | nil => cases enough
    | cons second others =>
      have behind := ih second others (Nat.succ.inj enough)
      have text : Template.fill ⟨first, second :: others⟩ (a :: args) =
          first ++ a.rendered ++ Template.fill ⟨second, others⟩ args := by
        simp [Template.fill, rendered_eq]
      rw [text]
      exact .place first a behind

/-- Every template has its pieces between the places, and only these, whether the places are looked
for among its characters or among its bytes. It takes exactly as many arguments as there are places
between the pieces, and then the outcome is the pieces filled with the arguments, in which no
argument begins a place. Otherwise it is the error that says which of the two are too few. -/
theorem expand_filled (template : String) (args : List Argument) :
    ∃ pieces,
      Cut place template.toList pieces ∧
      (∀ others, Cut place template.toList others → others = pieces) ∧
      Cut placeBytes template.toUTF8.data.toList (pieces.map bytesOf) ∧
      ((∃ path, expand template args = .ok path) ↔ args.length + 1 = pieces.length) ∧
      (∀ path, expand template args = .ok path ↔ Filled pieces args path.toList) ∧
      (∀ a ∈ args, '\x7b' ∉ a.rendered) ∧
      (args.length + 1 < pieces.length → expand template args =
        .error (.badRequest ("missing argument for route template '" ++ template ++ "'"))) ∧
      (pieces.length < args.length + 1 → expand template args =
        .error (.badRequest ("too many arguments for route template '" ++ template ++ "'"))) := by
  let t := Template.parse template
  have count : t.pieces.length = t.places + 1 := List.length_cons
  have cut : Cut place template.toList t.pieces := cut_ofChars template.toList
  have bytes : Cut placeBytes template.toUTF8.data.toList (t.pieces.map bytesOf) := by
    have own := cut_bytesOf template.toList
    rwa [bytesOf, String.ofList_toList] at own
  have fits (enough : args.length = t.places) :
      expand template args = .ok (String.ofList (t.fill args)) := by
    rw [expand, if_neg (Nat.not_lt.mpr (Nat.le_of_eq enough.symm)),
      if_neg (Nat.not_lt.mpr (Nat.le_of_eq enough))]
  refine ⟨t.pieces, cut, fun others other => other.unique cut, bytes, ?_, fun path => ⟨?_, ?_⟩,
    fun a _ => no_brace_rendered a, ?_, ?_⟩
  · rw [expand_isOk_iff, count]
    exact (Nat.add_right_cancel_iff).symm
  · intro expanded
    have enough := (expand_isOk_iff template args).mp ⟨path, expanded⟩
    rw [fits enough, Except.ok.injEq] at expanded
    rw [← expanded, String.toList_ofList]
    exact filled_fill t enough
  · intro filled
    have enough : args.length = t.places := by
      have := filled.length
      omega
    rw [fits enough, ← filled.unique (filled_fill t enough), String.ofList_toList]
  · intro few
    rw [expand, if_pos (show args.length < t.places by omega)]
  · intro many
    rw [expand, if_neg (show ¬ args.length < t.places by omega),
      if_pos (show t.places < args.length by omega)]

end ExplorerClient.Route
