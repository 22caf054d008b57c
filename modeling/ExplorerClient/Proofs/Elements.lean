import ExplorerClient.Proofs.Steady

/-!
# Lists that are read element by element

The text of an array is made of the texts of its elements, with commas between them and blanks
around them. A list of records decodes if and only if each of these texts decodes on its own, and
then it is the list of what they decode to, in their order. Only `null` is a list without being an
array.

Results:
* `said_array_iff`: the text of an array says the trees of its elements.
* `decode_list_iff`: lists of a steady form, from their elements.
* `records_listed`: lists of records of every type.
-/

namespace ExplorerClient.Json

/-! ## Texts of arrays -/

/-- The text is that of an array with these elements, between blanks and with commas between
them. -/
def ArrayText (es : List (List UInt8)) (s : List UInt8) : Prop :=
  ∃ w, Separated es w ∧ Padded (0x5b :: (w ++ [0x5d])) s

/-- The text of an array says the trees of its elements. -/
theorem said_array_iff {s : List UInt8} {items : List Tree} :
    Said s (.array items none) ↔ ∃ es, ArrayText es s ∧ List.Forall₂ Said es items := by
  constructor
  · rintro ⟨core, padded, tells⟩
    cases tells with
    | @array w parts separated each =>
      refine ⟨parts.map Prod.fst, ⟨w, separated, padded⟩, ?_⟩
      rw [List.forall₂_map_left_iff, List.forall₂_map_right_iff, List.forall₂_same]
      exact fun part there => (each part there).said
  · rintro ⟨es, ⟨w, separated, padded⟩, said⟩
    -- blanks around an element go to the commas next to it
    obtain ⟨parts, rfl, cores⟩ : ∃ parts : List (List UInt8 × List UInt8 × Tree),
        es = parts.map Prod.fst ∧ items = parts.map (·.2.2) ∧
          ∀ p ∈ parts, Padded p.2.1 p.1 ∧ Says p.2.1 p.2.2 := by
      clear separated
      induction said with
      | nil => exact ⟨[], rfl, rfl, by simp⟩
      | @cons e t es items said _ ih =>
        obtain ⟨core, padded, tells⟩ := said
        obtain ⟨parts, rfl, rfl, cores⟩ := ih
        exact ⟨(e, core, t) :: parts, rfl, rfl, List.forall_mem_cons.mpr ⟨⟨padded, tells⟩, cores⟩⟩
    obtain ⟨rfl, cores⟩ := cores
    have separated' := Separated.trim (fun p there => (cores p there).1) separated
    have tells : Says (0x5b :: (w ++ [0x5d]))
        (.array ((parts.map Prod.snd).map Prod.snd) none) := by
      refine .array (by simpa [Function.comp_def] using separated') fun p there => ?_
      obtain ⟨q, among, rfl⟩ := List.mem_map.mp there
      exact (cores q among).2
    exact ⟨_, padded, by simpa [Function.comp_def] using tells⟩

/-- Only the word itself, between blanks, says `null`. -/
theorem said_null_iff {s : List UInt8} : Said s .null ↔ Padded (utf8 "null") s := by
  constructor
  · rintro ⟨core, padded, tells⟩
    cases tells
    exact padded
  · exact fun padded => ⟨_, padded, .null⟩

/-! ## Lists -/

theorem forall₂_comp_iff {α β γ : Type} {R : α → β → Prop} {S : β → γ → Prop} {xs : List α}
    {zs : List γ} : (∃ ys, List.Forall₂ R xs ys ∧ List.Forall₂ S ys zs) ↔
      List.Forall₂ (fun x z => ∃ y, R x y ∧ S y z) xs zs := by
  constructor
  · rintro ⟨ys, first, second⟩
    induction first generalizing zs with
    | nil =>
      cases second
      exact .nil
    | cons related _ ih =>
      cases second with
      | cons related' others => exact .cons ⟨_, related, related'⟩ (ih others)
  · intro both
    induction both with
    | nil => exact ⟨[], .nil, .nil⟩
    | cons related _ ih =>
      obtain ⟨y, left, right⟩ := related
      obtain ⟨ys, lefts, rights⟩ := ih
      exact ⟨y :: ys, .cons left lefts, .cons right rights⟩

section

variable {α : Type} {c : Codec α} {depth : Nat}

/-- A list decodes to what the elements of its text decode to. -/
theorem decode_list_iff (steady : c.Steady depth) (small : depth + 1 ≤ Codec.maxDepth)
    {s : List UInt8} {values : List α} :
    decode (.list c) s = .ok values ↔
      ∃ es, ArrayText es s ∧ List.Forall₂ (fun e a => decode c e = .ok a) es values := by
  have same : c.read (Codec.maxDepth - 1) = c.read Codec.maxDepth :=
    funext (steady.read_eq (by omega) (by omega))
  calc decode (.list c) s = .ok values
    _ ↔ ∃ t, Said s t ∧ (Codec.list c).read (Codec.maxDepth - 1 + 1) t = .ok values :=
      decode_eq_ok_iff (Codec.careful_list steady.careful)
    _ ↔ ∃ items, Said s (.array items none) ∧
        List.Forall₂ (fun t a => c.read Codec.maxDepth t = .ok a) items values := by
      simp only [Codec.read_list_eq_ok_iff, same]
      constructor
      · rintro ⟨t, said, items, rfl, each⟩
        exact ⟨items, said, each⟩
      · rintro ⟨items, said, each⟩
        exact ⟨_, said, items, rfl, each⟩
    _ ↔ ∃ es, ArrayText es s ∧ ∃ items, List.Forall₂ Said es items ∧
        List.Forall₂ (fun t a => c.read Codec.maxDepth t = .ok a) items values := by
      simp only [said_array_iff]
      constructor
      · rintro ⟨items, ⟨es, text, trees⟩, each⟩
        exact ⟨es, text, items, trees, each⟩
      · rintro ⟨es, text, items, trees, each⟩
        exact ⟨items, ⟨es, text, trees⟩, each⟩
    _ ↔ ∃ es, ArrayText es s ∧ List.Forall₂ (fun e a => decode c e = .ok a) es values := by
      simp only [forall₂_comp_iff, decode_eq_ok_iff steady.careful]

/-- An endpoint reads `null` as the empty list, and any other text as a list. -/
theorem decodeObject_list_iff (steady : c.Steady depth) (small : depth + 1 ≤ Codec.maxDepth)
    {bytes : ByteArray} {values : List α} :
    decodeObject (.list c) [] bytes = .ok values ↔
      (Padded (utf8 "null") bytes.data.toList ∧ values = []) ∨
        ∃ es, ArrayText es bytes.data.toList ∧
          List.Forall₂ (fun e a => decode c e = .ok a) es values := by
  have careful := Codec.careful_list steady.careful
  rw [← decode_list_iff steady small, ← said_null_iff, decodeObject,
    decode_eq_ok_iff (Codec.careful_orNull careful []), decode_eq_ok_iff careful]
  constructor
  · rintro ⟨t, said, taken⟩
    by_cases null : t = .null
    · subst null
      exact Or.inl ⟨said, (Except.ok.inj taken).symm⟩
    · rw [Codec.read_orNull _ _ _ null] at taken
      exact Or.inr ⟨t, said, taken⟩
  · rintro (⟨said, rfl⟩ | ⟨t, said, taken⟩)
    · exact ⟨.null, said, rfl⟩
    · refine ⟨t, said, ?_⟩
      rwa [Codec.read_orNull]
      rintro rfl
      cases taken

end

namespace Record

/-- How lists of records of a type are read. -/
structure Listed (σ : Type) [Record σ] : Prop where
  /-- Texts that decode to records on their own are a text of the list of these records if they are
  put into an array. -/
  joined : ∀ es bytes (rs : List σ), ArrayText es bytes.data.toList →
    List.Forall₂ (fun e r => decode (codec σ) e = .ok r) es rs →
      decodeObject (.list (codec σ)) [] bytes = .ok rs
  /-- Whatever decodes to a list is such an array, unless it is `null`. -/
  split : ∀ bytes (rs : List σ), decodeObject (.list (codec σ)) [] bytes = .ok rs →
    ¬Padded (utf8 "null") bytes.data.toList → ∃ es, ArrayText es bytes.data.toList ∧
      List.Forall₂ (fun e r => decode (codec σ) e = .ok r) es rs

theorem Places.listed {σ : Type} [Record σ] {depth : Nat} (places : Places σ depth)
    (small : depth + 2 ≤ Codec.maxDepth := by decide) : Listed σ where
  joined _ _ _ text each :=
    (decodeObject_list_iff places.steady_codec small).mpr (Or.inr ⟨_, text, each⟩)
  split _ _ decoded there :=
    ((decodeObject_list_iff places.steady_codec small).mp decoded).resolve_left fun null =>
      there null.1

end Record

end ExplorerClient.Json

namespace ExplorerClient

open Json
open Json.Record (Listed)

/-- Lists of records of every type are read element by element. -/
theorem records_listed :
    (Listed AddressInfo ∧ Listed Balance ∧ Listed AddressBalance) ∧
    (Listed HistoryEntry ∧ Listed HistoryPage) ∧
    (Listed UnspentOutput ∧ Listed UnspentPage) ∧
    (Listed ScriptSig ∧ Listed TxInput ∧ Listed ScriptPubKey ∧ Listed TxOutput ∧ Listed TxInfo) ∧
    (Listed TxStatus ∧ Listed Outpoint ∧ Listed SpentIn ∧ Listed SpentOutput ∧
      Listed BroadcastFeedback) ∧
    (Listed BlockPages ∧ Listed BlockInfo ∧ Listed BlockHeader) ∧
    (Listed ChainInfo ∧ Listed ChainTip ∧ Listed PeerInfo ∧ Listed MempoolInfo ∧
      Listed ExchangeRate) :=
  ⟨⟨AddressInfo.places.listed, Balance.places.listed, AddressBalance.places.listed⟩,
    ⟨HistoryEntry.places.listed, HistoryPage.places.listed⟩,
    ⟨UnspentOutput.places.listed, UnspentPage.places.listed⟩,
    ⟨ScriptSig.places.listed, TxInput.places.listed, ScriptPubKey.places.listed,
      TxOutput.places.listed, TxInfo.places.listed⟩,
    ⟨TxStatus.places.listed, Outpoint.places.listed, SpentIn.places.listed,
      SpentOutput.places.listed, BroadcastFeedback.places.listed⟩,
    ⟨BlockPages.places.listed, BlockInfo.places.listed, BlockHeader.places.listed⟩,
    ⟨ChainInfo.places.listed, ChainTip.places.listed, PeerInfo.places.listed,
      MempoolInfo.places.listed, ExchangeRate.places.listed⟩⟩

example : decodeObject (.list (Record.codec Outpoint)) []
    "[ [\x22a\x22, 7] ,\x7b\x22vout\x22:1\x7d]".toUTF8 =
      .ok [{ txid := "a", vout := 7 }, { vout := 1 }] := by
  rfl

end ExplorerClient
