import ExplorerClient.Proofs.Classified
import Mathlib.Data.List.TakeWhile

/-!
# The id in the answer to a broadcast

The id that a broadcast answers with is what is left of the body when blanks have been removed from
its two ends, and then quotes. Nothing is removed a second time, so a blank inside the quotes, right
behind the opening ones or right in front of the closing ones, becomes an end of the id.

Results:
* `stripEnds_parts`, `stripEnds_enclosed`: what is removed, what is left, and that both are unique.
* `head_stripped_iff`: when the id begins with a blank.
* `stripped_stripped_iff`: removing twice is removing once just when no blank is left at the ends.
* `TransactionQuery.broadcast_clean_iff`: the id in any answer, and when it is clean.
-/

namespace ExplorerClient

namespace Text

/-! ## Removing from both ends -/

/-- Is neither the first nor the last of the characters one that `p` holds of? -/
def Bare (p : Char → Bool) (cs : List Char) : Prop :=
  (∀ c ∈ cs.head?, p c = false) ∧ ∀ c ∈ cs.getLast?, p c = false

theorem Bare.reverse {p : Char → Bool} {cs : List Char} (h : Bare p cs) : Bare p cs.reverse := by
  rw [Bare, List.head?_reverse, List.getLast?_reverse]
  exact ⟨h.2, h.1⟩

theorem stripEnds_enclosed {p : Char → Bool} {front mid back : List Char}
    (opening : ∀ c ∈ front, p c = true) (closing : ∀ c ∈ back, p c = true) (bare : Bare p mid) :
    stripEnds p (front ++ mid ++ back) = mid := by
  have behind : ∀ c ∈ back.reverse, p c = true := fun c hc => closing c (List.mem_reverse.mp hc)
  rw [stripEnds, List.append_assoc, List.dropWhile_append_of_pos opening]
  cases mid with
  | nil =>
    rw [List.nil_append, List.dropWhile_eq_nil_iff.mpr closing]
    rfl
  | cons c rest =>
    have start : (c :: rest ++ back).dropWhile p = c :: rest ++ back :=
      dropWhile_eq_self fun x hx => bare.1 x hx
    rw [start, List.reverse_append, List.dropWhile_append_of_pos behind,
      dropWhile_eq_self bare.reverse.1, List.reverse_reverse]

theorem stripEnds_parts (p : Char → Bool) (cs : List Char) :
    ∃ front back, cs = front ++ stripEnds p cs ++ back ∧ (∀ c ∈ front, p c = true) ∧
      (∀ c ∈ back, p c = true) ∧ Bare p (stripEnds p cs) := by
  let rest := cs.dropWhile p
  let back := (rest.reverse.takeWhile p).reverse
  have ends : rest = stripEnds p cs ++ back := by
    rw [stripEnds, ← List.reverse_append, List.takeWhile_append_dropWhile, List.reverse_reverse]
  refine ⟨cs.takeWhile p, back, ?_, ?_, ?_, ?_, ?_⟩
  · rw [List.append_assoc, ← ends, List.takeWhile_append_dropWhile]
  · exact fun c hc => List.all_eq_true.mp List.all_takeWhile c hc
  · exact fun c hc => List.all_eq_true.mp List.all_takeWhile c (List.mem_reverse.mp hc)
  · intro c hc
    have first : rest.head? = some c := by rw [ends, List.head?_append, hc, Option.some_or]
    have stops := List.head?_dropWhile_not p cs
    rw [show (cs.dropWhile p).head? = some c from first] at stops
    simpa using stops
  · intro c hc
    have stops := List.head?_dropWhile_not p rest.reverse
    rw [stripEnds, List.getLast?_reverse] at hc
    rw [show (rest.reverse.dropWhile p).head? = some c from hc] at stops
    simpa using stops

theorem stripEnds_bare (p : Char → Bool) (cs : List Char) : Bare p (stripEnds p cs) := by
  obtain ⟨-, -, -, -, -, bare⟩ := stripEnds_parts p cs
  exact bare

theorem stripEnds_reverse (p : Char → Bool) (cs : List Char) :
    stripEnds p cs.reverse = (stripEnds p cs).reverse := by
  obtain ⟨front, back, parts, opening, closing, bare⟩ := stripEnds_parts p cs
  have turned : cs.reverse = back.reverse ++ (stripEnds p cs).reverse ++ front.reverse :=
    (congrArg List.reverse parts).trans (by simp)
  rw [turned]
  exact stripEnds_enclosed (fun c hc => closing c (List.mem_reverse.mp hc))
    (fun c hc => opening c (List.mem_reverse.mp hc)) bare.reverse

theorem stripEnds_eq_self_iff {p : Char → Bool} {cs : List Char} :
    stripEnds p cs = cs ↔ Bare p cs :=
  ⟨fun same => same ▸ stripEnds_bare p cs, fun bare => stripEnds_eq_self bare.1 bare.2⟩

/-! ## Removing blanks, then quotes -/

/-- What is left without the blanks at the two ends, and then without the quotes there. -/
def stripped (cs : List Char) : List Char := stripEnds (· == '"') (stripEnds isBlank cs)

/-- Do the characters open with quotes that have a blank right behind them, apart from blanks in
front of the quotes, and does anything but blanks follow? -/
def OpensPadded (cs : List Char) : Prop :=
  ∃ blanks quotes c rest, cs = blanks ++ quotes ++ c :: rest ∧ (∀ x ∈ blanks, isBlank x = true) ∧
    quotes ≠ [] ∧ (∀ x ∈ quotes, x = '"') ∧ isBlank c = true ∧ ∃ x ∈ rest, isBlank x = false

/-- Is there a blank inside the quotes at one of the two ends? -/
def Padded (cs : List Char) : Prop := OpensPadded cs ∨ OpensPadded cs.reverse

theorem stripped_reverse (cs : List Char) : stripped cs.reverse = (stripped cs).reverse := by
  rw [stripped, stripEnds_reverse, stripEnds_reverse, stripped]

theorem stripped_parts (cs : List Char) :
    ∃ front back, cs = front ++ stripped cs ++ back ∧
      ∀ c ∈ front ++ back, isBlank c = true ∨ c = '"' := by
  obtain ⟨blanks, blanks', parts, opening, closing, -⟩ := stripEnds_parts isBlank cs
  obtain ⟨quotes, quotes', parts', opening', closing', -⟩ :=
    stripEnds_parts (· == '"') (stripEnds isBlank cs)
  refine ⟨blanks ++ quotes, quotes' ++ blanks', ?_, ?_⟩
  · calc cs = blanks ++ stripEnds isBlank cs ++ blanks' := parts
      _ = blanks ++ (quotes ++ stripped cs ++ quotes') ++ blanks' := by rw [parts', stripped]
      _ = blanks ++ quotes ++ stripped cs ++ (quotes' ++ blanks') := by
        simp only [List.append_assoc]
  · intro c hc
    simp only [List.mem_append] at hc
    rcases hc with (hc | hc) | hc | hc
    · exact Or.inl (opening c hc)
    · exact Or.inr (beq_iff_eq.mp (opening' c hc))
    · exact Or.inr (beq_iff_eq.mp (closing' c hc))
    · exact Or.inl (closing c hc)

theorem opensPadded_of_head {cs : List Char} {c : Char} (first : (stripped cs).head? = some c)
    (blank : isBlank c = true) : OpensPadded cs := by
  obtain ⟨blanks, blanks', parts, opening, -, bare⟩ := stripEnds_parts isBlank cs
  obtain ⟨quotes, quotes', inner, opening', -, -⟩ :=
    stripEnds_parts (· == '"') (stripEnds isBlank cs)
  obtain ⟨rest, left⟩ : ∃ rest, stripped cs = c :: rest := List.head?_eq_some_iff.mp first
  rw [show stripEnds (· == '"') (stripEnds isBlank cs) = c :: rest from left] at inner
  have between : stripEnds isBlank cs = quotes ++ c :: (rest ++ quotes') :=
    inner.trans (List.append_assoc ..)
  rw [between] at bare parts
  refine ⟨blanks, quotes, c, rest ++ quotes' ++ blanks', ?_, opening, ?_,
    fun x hx => beq_iff_eq.mp (opening' x hx), blank, ?_⟩
  · exact parts.trans (by simp only [List.append_assoc, List.cons_append])
  · -- the blank would be the first character behind the blanks
    rintro rfl
    exact Bool.false_ne_true ((bare.1 c rfl).symm.trans blank)
  · cases last : (rest ++ quotes').getLast? with
    | none =>
      -- the blank would be the last character in front of the blanks
      rw [List.getLast?_eq_none_iff.mp last] at bare
      exact absurd ((bare.2 c (by simp)).symm.trans blank) Bool.false_ne_true
    | some x =>
      have member : x ∈ rest ++ quotes' := List.mem_of_getLast? last
      refine ⟨x, List.mem_append_left _ member, bare.2 x ?_⟩
      rw [List.getLast?_append, List.getLast?_cons, last]
      rfl

theorem stripEnds_front {p : Char → Bool} {front : List Char} (opening : ∀ c ∈ front, p c = true)
    (cs : List Char) : stripEnds p (front ++ cs) = stripEnds p cs := by
  rw [stripEnds, stripEnds, List.dropWhile_append_of_pos opening]

theorem head_of_opensPadded {cs : List Char} (padded : OpensPadded cs) :
    ∃ c, (stripped cs).head? = some c ∧ isBlank c = true := by
  obtain ⟨blanks, quotes, c, rest, rfl, opening, someQuote, allQuotes, blank, x, hx, other⟩ :=
    padded
  have quoted : ∀ x ∈ quotes, (x == '"') = true := fun x hx => beq_iff_eq.mpr (allQuotes x hx)
  have first : ∃ x, quotes.head? = some x ∧ isBlank x = false :=
    ⟨_, List.head?_eq_some_head someQuote, by rw [allQuotes _ (List.head_mem someQuote)]; rfl⟩
  have last : ∃ x, quotes.getLast? = some x ∧ isBlank x = false :=
    ⟨_, List.getLast?_eq_some_getLast someQuote, by
      rw [allQuotes _ (List.getLast_mem someQuote)]; rfl⟩
  -- what is not a blank behind `c` keeps `c` from being removed with the blanks at the end
  have stays : (c :: rest).reverse.dropWhile isBlank = rest.reverse.dropWhile isBlank ++ [c] := by
    rw [List.reverse_cons, List.dropWhile_append, if_neg]
    intro empty
    have all := List.dropWhile_eq_nil_iff.mp (List.isEmpty_iff.mp empty) x (List.mem_reverse.mpr hx)
    exact Bool.false_ne_true (other.symm.trans all)
  have plain : (c == '"') = false := by
    refine beq_eq_false_iff_ne.mpr ?_
    rintro rfl
    exact absurd blank (by decide)
  have left : stripped (blanks ++ quotes ++ c :: rest) =
      stripEnds (· == '"') ([c] ++ (rest.reverse.dropWhile isBlank).reverse) := by
    rw [stripped, List.append_assoc, stripEnds_front opening, stripEnds_append first last, stays,
      stripEnds_front quoted, List.reverse_append]
    rfl
  refine ⟨c, ?_, blank⟩
  rw [left, stripEnds_append ⟨c, rfl, plain⟩ ⟨c, rfl, plain⟩]
  rfl

/-- What is left begins with a blank exactly when the text opens with quotes that have one behind
them. -/
theorem head_stripped_iff {cs : List Char} :
    (∃ c, (stripped cs).head? = some c ∧ isBlank c = true) ↔ OpensPadded cs :=
  ⟨fun ⟨_, first, blank⟩ => opensPadded_of_head first blank, head_of_opensPadded⟩

theorem last_stripped_iff {cs : List Char} :
    (∃ c, (stripped cs).getLast? = some c ∧ isBlank c = true) ↔ OpensPadded cs.reverse := by
  rw [← head_stripped_iff, stripped_reverse, List.head?_reverse]

theorem bare_stripped_iff {cs : List Char} : Bare isBlank (stripped cs) ↔ ¬ Padded cs := by
  rw [Padded, ← head_stripped_iff, ← last_stripped_iff, Bare, not_or]
  simp only [Option.mem_def, not_exists, not_and, Bool.not_eq_true]

/-- Removing blanks and quotes again changes nothing exactly when no blank has become an end. -/
theorem stripped_stripped_iff {cs : List Char} :
    stripped (stripped cs) = stripped cs ↔ Bare isBlank (stripped cs) := by
  have bare : Bare (· == '"') (stripped cs) := stripEnds_bare _ _
  constructor
  · intro same
    obtain ⟨front, back, parts, -, -, -⟩ := stripEnds_parts isBlank (stripped cs)
    obtain ⟨front', back', parts', -, -, -⟩ :=
      stripEnds_parts (· == '"') (stripEnds isBlank (stripped cs))
    rw [show stripEnds (· == '"') (stripEnds isBlank (stripped cs)) = stripped cs from same]
      at parts'
    have outer := congrArg List.length parts
    have inner := congrArg List.length parts'
    simp only [List.length_append] at outer inner
    -- nothing has been lost, so neither of the two steps has removed anything
    obtain rfl : front = [] := List.eq_nil_of_length_eq_zero (by omega)
    obtain rfl : back = [] := List.eq_nil_of_length_eq_zero (by omega)
    exact stripEnds_eq_self_iff.mp (by simpa using parts.symm)
  · intro clean
    rw [stripped, stripEnds_eq_self_iff.mpr clean, stripEnds_eq_self_iff.mpr bare]

end Text

/-! ## The answer to a broadcast -/

namespace TransactionQuery

theorem broadcastId_toList (bytes : ByteArray) :
    (broadcastId bytes).toList = Text.stripped (Text.ofBytes bytes).toList := by
  simp only [broadcastId, trimmedText, Text.unquote, Text.trim, String.toList_ofList, Text.stripped]

theorem broadcastId_again_iff (bytes : ByteArray) :
    broadcastId (broadcastId bytes).toUTF8 = broadcastId bytes ↔
      Text.Bare Text.isBlank (broadcastId bytes).toList := by
  rw [← String.toList_inj, broadcastId_toList, Text.ofBytes_toUTF8, broadcastId_toList]
  exact Text.stripped_stripped_iff

section

variable {ε σ : Type} {w : Wiring ε σ} {ctx : Context} {tx : String} {live : Live ε σ}
  {url : String} {request : Request} {response : Response} {world : World σ} {bytes : ByteArray}
  {time : Timeline}

theorem broadcast_called
    (handed : (Query.transaction (.broadcast tx)).handed live.client = .ok (url, request))
    (answered : w.executor live.client.slot ctx request live.world = some (.ok response, world))
    (read : response.readBody ctx world.time = some (.ok bytes, time))
    (accepted : Success response.status) :
    ∃ after, (TransactionQuery.broadcast tx).call w ctx live =
      some (.ok (broadcastId bytes), after) := by
  obtain ⟨after, called⟩ := Query.call_read handed answered read
  have outcome : (Except.ok bytes : Except Error ByteArray).bind response.outcome = .ok bytes :=
    response.outcome_accepted accepted bytes
  rw [outcome] at called
  exact ⟨after, called⟩

end

/-- The id in the answer to a broadcast is a stretch of the body from which only blanks and quotes
were removed at the two ends, and no quote is an end of it. Neither is a blank, and removing both
again changes nothing, exactly when the quotes of the body have no blank right inside them. -/
theorem broadcast_clean_iff {ε σ : Type} (w : Wiring ε σ) (ctx : Context) (tx : String)
    (live : Live ε σ) (url : String) (request : Request) (response : Response) (world : World σ)
    (bytes : ByteArray) (time : Timeline)
    (handed : (Query.transaction (.broadcast tx)).handed live.client = .ok (url, request))
    (answered : w.executor live.client.slot ctx request live.world = some (.ok response, world))
    (read : response.readBody ctx world.time = some (.ok bytes, time))
    (accepted : Success response.status) :
    ∃ (id : String) (after : Live ε σ),
      (TransactionQuery.broadcast tx).call w ctx live = some (.ok id, after) ∧
      (∃ front back, (Text.ofBytes bytes).toList = front ++ id.toList ++ back ∧
        ∀ c ∈ front ++ back, Text.isBlank c = true ∨ c = '"') ∧
      Text.Bare (· == '"') id.toList ∧
      (Text.Bare Text.isBlank id.toList ↔ ¬ Text.Padded (Text.ofBytes bytes).toList) ∧
      (broadcastId id.toUTF8 = id ↔ ¬ Text.Padded (Text.ofBytes bytes).toList) := by
  obtain ⟨after, called⟩ := broadcast_called handed answered read accepted
  have clean : Text.Bare Text.isBlank (broadcastId bytes).toList ↔
      ¬ Text.Padded (Text.ofBytes bytes).toList := by
    rw [broadcastId_toList]
    exact Text.bare_stripped_iff
  refine ⟨broadcastId bytes, after, called, ?_, ?_, clean,
    (broadcastId_again_iff bytes).trans clean⟩
  · rw [broadcastId_toList]
    exact Text.stripped_parts _
  · rw [broadcastId_toList]
    exact Text.stripEnds_bare _ _

/-- A server that takes every transaction and answers with one text. -/
def obliging (body : String) : Wiring Unit Unit where
  supplied _ := fun _ _ w => some (.ok ⟨200, body.toUTF8, .complete⟩, w)
  managed _ := .refuse
  random _ := 0
  connect _ := .ok ()

theorem broadcast_clean_iff_quoted :
    ∃ (id : String) (after : Live Unit Unit),
      (TransactionQuery.broadcast "0100").call (obliging " \x22ab\x22\n") ⟨⟨[0]⟩, none⟩
        ⟨⟨{}, .standard, {}, {}, .supplied (), {}⟩, .start, ()⟩ = some (.ok id, after) ∧
      Text.Bare (· == '"') id.toList ∧ Text.Bare Text.isBlank id.toList := by
  obtain ⟨url, request, handed⟩ : ∃ url request,
      (Query.transaction (.broadcast "0100")).handed
        (⟨{}, .standard, {}, {}, .supplied (), {}⟩ : Client Unit) = .ok (url, request) :=
    ⟨_, _, rfl⟩
  obtain ⟨id, after, called, -, bare, clean, -⟩ := broadcast_clean_iff (obliging " \x22ab\x22\n")
    ⟨⟨[0]⟩, none⟩ "0100" ⟨⟨{}, .standard, {}, {}, .supplied (), {}⟩, .start, ()⟩ url request
    ⟨200, " \x22ab\x22\n".toUTF8, .complete⟩ ⟨.start, ()⟩ " \x22ab\x22\n".toUTF8 .start handed rfl
    rfl ⟨by decide, by decide⟩
  refine ⟨id, after, called, bare, clean.mpr ?_⟩
  rw [Text.ofBytes_toUTF8, ← Text.bare_stripped_iff]
  have left : Text.stripped " \x22ab\x22\n".toList = ['a', 'b'] := by decide
  rw [left]
  constructor
  · rintro c ⟨⟩
    decide
  · rintro c ⟨⟩
    decide

/-- A blank behind the opening quote of the body becomes the first character of the id. -/
theorem broadcast_padded :
    ∃ (id : String) (after : Live Unit Unit),
      (TransactionQuery.broadcast "0100").call (obliging "\x22 ab\x22") ⟨⟨[0]⟩, none⟩
        ⟨⟨{}, .standard, {}, {}, .supplied (), {}⟩, .start, ()⟩ = some (.ok id, after) ∧
      ¬ Text.Bare Text.isBlank id.toList ∧ broadcastId id.toUTF8 ≠ id := by
  obtain ⟨url, request, handed⟩ : ∃ url request,
      (Query.transaction (.broadcast "0100")).handed
        (⟨{}, .standard, {}, {}, .supplied (), {}⟩ : Client Unit) = .ok (url, request) :=
    ⟨_, _, rfl⟩
  obtain ⟨after, called⟩ : ∃ after,
      (TransactionQuery.broadcast "0100").call (obliging "\x22 ab\x22") ⟨⟨[0]⟩, none⟩
        ⟨⟨{}, .standard, {}, {}, .supplied (), {}⟩, .start, ()⟩ =
          some (.ok (broadcastId "\x22 ab\x22".toUTF8), after) :=
    broadcast_called handed rfl rfl ⟨by decide, by decide⟩
  have left : (broadcastId "\x22 ab\x22".toUTF8).toList = [' ', 'a', 'b'] := by
    rw [broadcastId_toList, Text.ofBytes_toUTF8]
    decide
  have padded : ¬ Text.Bare Text.isBlank (broadcastId "\x22 ab\x22".toUTF8).toList := by
    rw [left]
    exact fun bare => absurd (bare.1 ' ' rfl) (by decide)
  exact ⟨_, after, called, padded, fun same => padded ((broadcastId_again_iff _).mp same)⟩

end TransactionQuery

end ExplorerClient
