import ExplorerClient.Endpoint.Basic
import ExplorerClient.Proofs.ReadBack
import ExplorerClient.Record.Address
import ExplorerClient.Record.Block
import ExplorerClient.Record.Network
import ExplorerClient.Record.Transaction

/-!
# Records that are written and read back

A form is exact if taking a value out of the tree of what it writes gives the value again. The forms
of truth values, texts and whole numbers are exact, lists of an exact form are, and so are records:
no two of their fields have the same name, each field that is written has an exact form, and a
record is put together again from its written fields alone, because a field that is left out has its
blank value.

Only double precision numbers stand apart. Every record without one is read back as it was written.

Results:
* `Codec.Exact.list`, `Record.Law.exact_codec`: lists and records, from what they hold.
* `Codec.Exact.decode_encode`: the text of a value of an exact form is read back as that value.
* `records_restored`: this is so for every type of records without a double precision number.
-/

namespace ExplorerClient.Json

/-! ## Exact forms -/

theorem Value.tree_ne_null {v : Value} (there : v ≠ .null) : v.tree ≠ .null := by
  cases v <;> simp [Value.tree] at there ⊢

namespace Codec

/-- Where that many arrays and objects may be opened, every value is taken out of what it is written
as. It is never written as `null`, and its numbers are whole. -/
structure Exact {α : Type} (c : Codec α) (depth : Nat) : Prop where
  there : ∀ a, c.write a ≠ .null
  whole : ∀ a, (c.write a).Whole
  read : ∀ a n, depth ≤ n → c.read n (c.write a).tree = .ok a

variable {α : Type} {c : Codec α} {depth : Nat}

@[simp]
theorem exact_bool : bool.Exact depth where
  there _ := Value.noConfusion
  whole _ := by simp [bool, Value.Whole]
  read _ _ _ := by simp [bool, Value.tree]

@[simp]
theorem exact_text : text.Exact depth where
  there _ := Value.noConfusion
  whole _ := by simp [text, Value.Whole]
  read _ _ _ := by simp [text, Value.tree]

theorem readInt_tree {low high n : Int} (above : low ≤ n) (below : n ≤ high) :
    readInt low high (Value.number (.int n)).tree = .ok n := by
  rw [Value.tree, readInt, if_pos ⟨above, below⟩]

@[simp]
theorem exact_int64 : int64.Exact depth where
  there _ := Value.noConfusion
  whole a := by
    have above := a.le_toInt
    have below := a.toInt_lt
    simp only [int64, Value.Whole]
    omega
  read a n _ := by
    have above := a.le_toInt
    have below := a.toInt_lt
    simp only [int64]
    rw [readInt_tree (by omega) (by omega)]
    exact congrArg Except.ok (Int64.ofInt_toInt a)

@[simp]
theorem exact_uint64 : uint64.Exact depth where
  there _ := Value.noConfusion
  whole a := by
    have below := a.toNat_lt
    simp only [uint64, Value.Whole]
    omega
  read a n _ := by
    have below := a.toNat_lt
    simp only [uint64]
    rw [readInt_tree (by omega) (by omega)]
    exact congrArg Except.ok (UInt64.ofNat_toNat)

@[simp]
theorem exact_uint32 : uint32.Exact depth where
  there _ := Value.noConfusion
  whole a := by
    have below := a.toNat_lt
    simp only [uint32, Value.Whole]
    omega
  read a n _ := by
    have below := a.toNat_lt
    simp only [uint32]
    rw [readInt_tree (by omega) (by omega)]
    exact congrArg Except.ok (UInt32.ofNat_toNat)

/-- What is not `null` is taken out as by the form itself. -/
theorem read_option (c : Codec α) (depth : Nat) {t : Tree} (there : t ≠ .null) :
    (option c).read depth t = (c.read depth t).map some := by
  cases t <;> first | rfl | exact absurd rfl there

theorem Exact.read_some (h : c.Exact depth) (a : α) {n : Nat} (deep : depth ≤ n) :
    (option c).read n (c.write a).tree = .ok (some a) := by
  rw [read_option c n (Value.tree_ne_null (h.there a)), h.read a n deep]
  rfl

theorem Exact.orNull (h : c.Exact depth) (absent : α) : (c.orNull absent).Exact depth where
  there := h.there
  whole := h.whole
  read a n deep := by
    have found := h.read_some a deep
    simp only [Codec.orNull, found]
    rfl

/-! ## Lists -/

theorem Exact.wholeItems (h : c.Exact depth) (values : List α) :
    WholeItems (values.map c.write) := by
  induction values with
  | nil => rw [List.map_nil, WholeItems]; trivial
  | cons a values ih =>
    rw [List.map_cons, WholeItems]
    exact ⟨h.whole a, ih⟩

theorem Exact.readItems (h : c.Exact depth) (values : List α) {n : Nat} (deep : depth ≤ n) :
    (treeItems (values.map c.write)).mapM (c.read n) = .ok values := by
  induction values with
  | nil => rw [List.map_nil, treeItems, List.mapM_nil]; rfl
  | cons a values ih =>
    rw [List.map_cons, treeItems, List.mapM_cons, h.read a n deep, ih]
    rfl

@[simp]
theorem Exact.list (h : c.Exact depth) : (list c).Exact (depth + 1) where
  there _ := Value.noConfusion
  whole values := by
    simp only [Codec.list, Value.Whole]
    exact h.wholeItems values
  read values n deep := by
    obtain ⟨n, rfl⟩ : ∃ m, n = m + 1 := ⟨n - 1, by omega⟩
    have found := h.readItems values (n := n) (by omega)
    simp only [Codec.list, Value.tree, found]
    rfl

/-! ## Whole texts -/

/-- The text of a value of an exact form is read back as that value. -/
theorem Exact.decode_encode (h : c.Exact depth) (small : depth ≤ maxDepth) (a : α) :
    decode c (utf8 (encode c a)) = .ok a := by
  rw [decode, encode, (says_render (c.write a) (h.whole a)).said.read]
  simp only [h.read a maxDepth small]
  rfl

/-- What has been taken out of any text can be written and taken out again. -/
theorem Exact.decode_again (h : c.Exact depth) (small : depth ≤ maxDepth) (bytes : List UInt8) :
    ((decode c bytes).bind fun a => decode c (utf8 (encode c a))) = decode c bytes := by
  cases decode c bytes with
  | error fault => rfl
  | ok a => exact h.decode_encode small a

end Codec

/-! ## Fields -/

namespace Field

variable {σ : Type} {depth : Nat}

/-- A value with which the field is written is taken out of what it is written as. -/
structure Exact (f : Field σ) (depth : Nat) : Prop where
  whole : ∀ a, f.shown a = true → (f.codec.write a).Whole
  read : ∀ a n, f.shown a = true → depth ≤ n → f.codec.read n (f.codec.write a).tree = .ok a

@[simp]
theorem exact_always {α : Type} {c : Codec α} (h : c.Exact depth) (name : String) (get : σ → α)
    (set : α → σ → σ) : (Field.always name c get set).Exact depth where
  whole a _ := h.whole a
  read a n _ deep := h.read a n deep

@[simp]
theorem exact_optional {α : Type} {c : Codec α} (h : c.Exact depth) (name : String)
    (get : σ → Option α) (set : Option α → σ → σ) :
    (Field.optional name c get set).Exact depth where
  whole
    | some a, _ => h.whole a
  read
    | some a, _, _, deep => h.read_some a deep

/-- Brings the value of a written field from one record into another. -/
def carry (f : Field σ) (r done : σ) : σ :=
  if f.shown (f.get r) then f.set (f.get r) done else done

@[simp]
theorem carry_always {α : Type} (name : String) (c : Codec α) (get : σ → α) (set : α → σ → σ)
    (r done : σ) : (Field.always name c get set).carry r done = set (get r) done := rfl

@[simp]
theorem carry_optional {α : Type} (name : String) (c : Codec α) (get : σ → Option α)
    (set : Option α → σ → σ) (r done : σ) :
    (Field.optional name c get set).carry r done =
      if (get r).isSome then set (get r) done else done := rfl

theorem Exact.readField {f : Field σ} (h : f.Exact depth) {r : σ} (shown : f.shown (f.get r) = true)
    {n : Nat} (deep : depth ≤ n) (done : σ) :
    Record.readField n f (f.codec.write (f.get r)).tree done = .ok (f.carry r done) := by
  rw [Record.readField, h.read _ n shown deep, carry, if_pos shown]
  rfl

end Field

/-! ## Records -/

namespace Record

variable {σ : Type}

/-- The record can be put together from what is written of it. -/
structure Law (σ : Type) [Record σ] (depth : Nat) : Prop where
  distinct : ((fields : List (Field σ)).map (·.name)).Nodup
  exact : ∀ f ∈ (fields : List (Field σ)), f.Exact depth
  carried : ∀ r : σ, (fields : List (Field σ)).foldl (fun done f => f.carry r done) blank = r

/-- A field is found by its name. -/
theorem find_name {fs : List (Field σ)} (distinct : (fs.map (·.name)).Nodup) {f : Field σ}
    (there : f ∈ fs) : fs.find? (·.name == f.name) = some f := by
  induction fs with
  | nil => exact absurd there List.not_mem_nil
  | cons g fs ih =>
    rw [List.map_cons, List.nodup_cons] at distinct
    rcases List.mem_cons.1 there with rfl | later
    · exact List.find?_cons_of_pos (by simp)
    · have other : g.name ≠ f.name := fun same =>
        distinct.1 (same ▸ List.mem_map_of_mem later)
      rw [List.find?_cons_of_neg (by simpa using other)]
      exact ih distinct.2 later

theorem members_cons (f : Field σ) (fs : List (Field σ)) (r : σ) :
    members (f :: fs) r =
      if f.shown (f.get r) then (f.name, f.codec.write (f.get r)) :: members fs r
      else members fs r := by
  rw [members, List.filterMap_cons]
  by_cases shown : f.shown (f.get r) = true
  · simp only [if_pos shown]
    rfl
  · simp only [if_neg shown]
    rfl

theorem wholeMembers_members {fs : List (Field σ)} {depth : Nat} (exact : ∀ f ∈ fs, f.Exact depth)
    (r : σ) : WholeMembers (members fs r) := by
  induction fs with
  | nil => simp [members, WholeMembers]
  | cons f fs ih =>
    have later := ih fun g there => exact g (List.mem_cons_of_mem f there)
    rw [members_cons]
    by_cases shown : f.shown (f.get r) = true
    · rw [if_pos shown, WholeMembers]
      exact ⟨(exact f List.mem_cons_self).whole _ shown, later⟩
    · rwa [if_neg shown]

/-- Reading the members of some last fields brings the values of these fields into the record, if
none of them has been read before. -/
theorem readFields_members {fs rest : List (Field σ)} {depth n : Nat}
    (distinct : (fs.map (·.name)).Nodup) (exact : ∀ f ∈ fs, f.Exact depth) (deep : depth ≤ n)
    (among : rest <:+ fs) (r : σ) (seen : List String)
    (unseen : ∀ f ∈ rest, f.name ∉ seen) (done : σ) :
    readFields fs n seen ((treeMembers (members rest r)).map fun m => (.ok m.1, m.2)) done =
      .ok (rest.foldl (fun done f => f.carry r done) done) := by
  induction rest generalizing seen done with
  | nil => rfl
  | cons f rest ih =>
    have there : f ∈ fs := among.subset List.mem_cons_self
    have after : rest <:+ fs := (List.suffix_cons f rest).trans among
    have unread : f.name ∉ rest.map (·.name) :=
      (List.nodup_cons.1 ((among.map (·.name)).sublist.nodup distinct)).1
    rw [members_cons, List.foldl_cons]
    by_cases shown : f.shown (f.get r) = true
    · have value := (exact f there).readField shown deep done
      have later := ih after (f.name :: seen) (fun g behind => by
        rw [List.mem_cons, not_or]
        exact ⟨fun same => unread (same ▸ List.mem_map_of_mem behind),
          unseen g (List.mem_cons_of_mem f behind)⟩) (f.carry r done)
      rw [if_pos shown, treeMembers, List.map_cons, readFields]
      simp only [bind, Except.bind, find_name distinct there, value,
        if_neg (unseen f List.mem_cons_self)]
      exact later
    · rw [if_neg shown, Field.carry, if_neg shown]
      exact ih after seen (fun g behind => unseen g (List.mem_cons_of_mem f behind)) done

/-- Records are exact if their fields are. -/
@[simp]
theorem Law.exact_codec [Record σ] {depth : Nat} (law : Law σ depth) :
    (codec σ).Exact (depth + 1) where
  there _ := Value.noConfusion
  whole r := by
    simp only [codec, Value.Whole]
    exact wholeMembers_members law.exact r
  read r n deep := by
    obtain ⟨n, rfl⟩ : ∃ m, n = m + 1 := ⟨n - 1, by omega⟩
    have found := readFields_members law.distinct law.exact (n := n) (by omega)
      (List.suffix_refl _) r [] (fun _ _ => List.not_mem_nil) blank
    rw [law.carried r] at found
    simp only [codec, Value.tree, found]
    rfl

/-- So are lists of records. -/
@[simp]
theorem Law.exact_list [Record σ] {depth : Nat} (law : Law σ depth) :
    (Codec.list (codec σ)).Exact (depth + 2) := law.exact_codec.list

/-- Records of the type are read back as they were written: on their own, as the answer of an
endpoint, and in a list that is the answer of an endpoint. Once a record has been read from a text,
whatever the text was, writing it and reading it again changes nothing. -/
structure Restored (σ : Type) [Record σ] : Prop where
  own : ∀ r : σ, decode (codec σ) (utf8 (encode (codec σ) r)) = .ok r
  again : ∀ bytes, ((decode (codec σ) bytes).bind fun r =>
    decode (codec σ) (utf8 (encode (codec σ) r))) = decode (codec σ) bytes
  answer : ∀ r : σ, decodeObject (codec σ) blank (encode (codec σ) r).toUTF8 = .ok r
  answerAgain : ∀ bytes, ((decodeObject (codec σ) blank bytes).bind fun r =>
    decodeObject (codec σ) blank (encode (codec σ) r).toUTF8) = decodeObject (codec σ) blank bytes
  listed : ∀ rs : List σ,
    decodeObject (.list (codec σ)) [] (encode (.list (codec σ)) rs).toUTF8 = .ok rs
  listedAgain : ∀ bytes, ((decodeObject (.list (codec σ)) [] bytes).bind fun rs =>
    decodeObject (.list (codec σ)) [] (encode (.list (codec σ)) rs).toUTF8) =
      decodeObject (.list (codec σ)) [] bytes

theorem Law.restored [Record σ] {depth : Nat} (law : Law σ depth)
    (small : depth + 2 ≤ Codec.maxDepth := by decide) : Restored σ := by
  have one := law.exact_codec
  have one_null := one.orNull (blank : σ)
  have list_null := law.exact_list.orNull []
  have small' : depth + 1 ≤ Codec.maxDepth := by omega
  exact {
    own := one.decode_encode small'
    again := one.decode_again small'
    answer := one_null.decode_encode small'
    answerAgain := fun bytes => one_null.decode_again small' bytes.data.toList
    listed := list_null.decode_encode small
    listedAgain := fun bytes => list_null.decode_again small bytes.data.toList }

end Record

end ExplorerClient.Json

namespace ExplorerClient

open Json

/-! ## The types of records

The forms of most fields are exact without more ado. A page, an input and a spent output hold other
records, whose laws are used. Only two types have a field that may be left out. -/

theorem AddressInfo.law : Record.Law AddressInfo 0 :=
  ⟨by decide, by simp [Record.fields], by simp [Record.fields, Record.blank]⟩

theorem Balance.law : Record.Law Balance 0 :=
  ⟨by decide, by simp [Record.fields], by simp [Record.fields, Record.blank]⟩

theorem AddressBalance.law : Record.Law AddressBalance 0 :=
  ⟨by decide, by simp [Record.fields], by simp [Record.fields, Record.blank]⟩

theorem HistoryEntry.law : Record.Law HistoryEntry 0 :=
  ⟨by decide, by simp [Record.fields], by simp [Record.fields, Record.blank]⟩

theorem HistoryPage.law : Record.Law HistoryPage 2 where
  distinct := by decide
  exact := by simp [Record.fields, HistoryEntry.law]
  carried r := by obtain ⟨_, _, _, _, _ | token⟩ := r <;> simp [Record.fields, Record.blank]

theorem UnspentOutput.law : Record.Law UnspentOutput 0 :=
  ⟨by decide, by simp [Record.fields], by simp [Record.fields, Record.blank]⟩

theorem UnspentPage.law : Record.Law UnspentPage 2 where
  distinct := by decide
  exact := by simp [Record.fields, UnspentOutput.law]
  carried := by simp [Record.fields, Record.blank]

theorem ScriptSig.law : Record.Law ScriptSig 0 :=
  ⟨by decide, by simp [Record.fields], by simp [Record.fields, Record.blank]⟩

theorem TxInput.law : Record.Law TxInput 1 where
  distinct := by decide
  exact := by simp [Record.fields, ScriptSig.law]
  carried := by simp [Record.fields, Record.blank]

theorem ScriptPubKey.law : Record.Law ScriptPubKey 1 :=
  ⟨by decide, by simp [Record.fields], by simp [Record.fields, Record.blank]⟩

theorem TxStatus.law : Record.Law TxStatus 0 :=
  ⟨by decide, by simp [Record.fields], by simp [Record.fields, Record.blank]⟩

theorem Outpoint.law : Record.Law Outpoint 0 :=
  ⟨by decide, by simp [Record.fields], by simp [Record.fields, Record.blank]⟩

theorem SpentIn.law : Record.Law SpentIn 0 :=
  ⟨by decide, by simp [Record.fields], by simp [Record.fields, Record.blank]⟩

theorem SpentOutput.law : Record.Law SpentOutput 1 where
  distinct := by decide
  exact := by simp [Record.fields, Outpoint.law, SpentIn.law]
  carried r := by obtain ⟨_, _ | spent, _⟩ := r <;> simp [Record.fields, Record.blank]

theorem BlockPages.law : Record.Law BlockPages 1 :=
  ⟨by decide, by simp [Record.fields], by simp [Record.fields, Record.blank]⟩

theorem ChainTip.law : Record.Law ChainTip 0 :=
  ⟨by decide, by simp [Record.fields], by simp [Record.fields, Record.blank]⟩

theorem PeerInfo.law : Record.Law PeerInfo 0 :=
  ⟨by decide, by simp [Record.fields], by simp [Record.fields, Record.blank]⟩

theorem BroadcastFeedback.law : Record.Law BroadcastFeedback 0 :=
  ⟨by decide, by simp [Record.fields], by simp [Record.fields, Record.blank]⟩

open Record (Restored)

/-- The records without a double precision number, of whatever type, are read back as they were
written. -/
theorem records_restored :
    (Restored AddressInfo ∧ Restored Balance ∧ Restored AddressBalance) ∧
    (Restored HistoryEntry ∧ Restored HistoryPage) ∧
    (Restored UnspentOutput ∧ Restored UnspentPage) ∧
    (Restored ScriptSig ∧ Restored TxInput ∧ Restored ScriptPubKey) ∧
    (Restored TxStatus ∧ Restored Outpoint ∧ Restored SpentIn ∧ Restored SpentOutput) ∧
    (Restored BlockPages ∧ Restored ChainTip ∧ Restored PeerInfo ∧ Restored BroadcastFeedback) :=
  ⟨⟨AddressInfo.law.restored, Balance.law.restored, AddressBalance.law.restored⟩,
    ⟨HistoryEntry.law.restored, HistoryPage.law.restored⟩,
    ⟨UnspentOutput.law.restored, UnspentPage.law.restored⟩,
    ⟨ScriptSig.law.restored, TxInput.law.restored, ScriptPubKey.law.restored⟩,
    ⟨TxStatus.law.restored, Outpoint.law.restored, SpentIn.law.restored,
      SpentOutput.law.restored⟩,
    ⟨BlockPages.law.restored, ChainTip.law.restored, PeerInfo.law.restored,
      BroadcastFeedback.law.restored⟩⟩

end ExplorerClient
