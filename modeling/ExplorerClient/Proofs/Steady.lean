import ExplorerClient.Proofs.Parsed
import ExplorerClient.Proofs.Restored
import Mathlib.Data.List.Forall2

/-!
# Steady forms

A form is careful if it takes values only out of trees that can be passed over, so that it decodes
whole texts only. It is steady at a depth if, moreover, it does not matter how many more arrays and
objects than that may be opened. The forms of scalars are steady at any depth; a list or a record is
one deeper than what it holds.

A record has places if each of its fields keeps what is put into it, no field touches another one,
and nothing else is in the record.

Results:
* `mapM_eq_ok_iff`: taking values out of several trees, one by one.
* `Codec.Steady.list`, `Record.Places.steady_codec`: lists and records, from what they hold.
* `AddressInfo.places` and so on: the records of each type have places.
-/

namespace ExplorerClient.Json

theorem mapM_eq_ok_iff {ε α β : Type} {f : α → Except ε β} {xs : List α} {ys : List β} :
    xs.mapM f = .ok ys ↔ List.Forall₂ (fun x y => f x = .ok y) xs ys := by
  induction xs generalizing ys with
  | nil =>
    rw [List.mapM_nil, List.forall₂_nil_left_iff]
    exact ⟨fun same => (Except.ok.inj same).symm, fun none => none ▸ rfl⟩
  | cons x xs ih =>
    rw [List.mapM_cons, List.forall₂_cons_left_iff]
    constructor
    · intro all
      obtain ⟨y, first, more⟩ := exists_ok_of_bind all
      obtain ⟨ys, rest, same⟩ := exists_ok_of_bind more
      exact ⟨y, ys, first, ih.mp rest, (Except.ok.inj same).symm⟩
    · rintro ⟨y, ys, first, rest, rfl⟩
      rw [first, ih.mpr rest]
      rfl

namespace Codec

variable {α : Type} {c : Codec α} {depth : Nat}

/-- The form looks at the whole of a tree, and with that many arrays and objects that may be opened
it finds the same as with more of them. -/
structure Steady (c : Codec α) (depth : Nat) : Prop where
  careful : c.Careful
  deep : ∀ n t, depth ≤ n → c.read n t = c.read depth t

/-- With enough arrays and objects that may be opened, their number does not matter. -/
theorem Steady.read_eq (h : c.Steady depth) {m n : Nat} (hm : depth ≤ m) (hn : depth ≤ n)
    (t : Tree) : c.read m t = c.read n t := (h.deep m t hm).trans (h.deep n t hn).symm

/-! ## Scalars -/

@[simp]
theorem steady_bool : bool.Steady depth where
  careful n t a taken := by
    cases t with
    | bool => simp [Tree.passFault?]
    | _ => cases taken
  deep _ _ _ := rfl

@[simp]
theorem steady_text : text.Steady depth where
  careful n t a taken := by
    cases t with
    | text => simp [Tree.passFault?]
    | _ => cases taken
  deep _ _ _ := rfl

@[simp]
theorem steady_float : float.Steady depth where
  careful n t a taken := by
    cases t with
    | number => simp [Tree.passFault?]
    | _ => cases taken
  deep _ _ _ := rfl

theorem passes_of_readInt {low high value : Int} {t : Tree}
    (taken : readInt low high t = .ok value) : t.passFault? = none := by
  cases t with
  | number => simp [Tree.passFault?]
  | _ => cases taken

/-- Whole numbers of some range, whatever is made of them. -/
theorem steady_readInt {low high : Int} {f : Int → α}
    (reads : ∀ n t, c.read n t = (readInt low high t).map f) : c.Steady depth where
  careful n t a taken := by
    rw [reads] at taken
    obtain ⟨value, found, -⟩ := exists_ok_of_map taken
    exact passes_of_readInt found
  deep n t _ := (reads n t).trans (reads depth t).symm

@[simp]
theorem steady_int64 : int64.Steady depth := steady_readInt fun _ _ => rfl

@[simp]
theorem steady_int32 : int32.Steady depth := steady_readInt fun _ _ => rfl

@[simp]
theorem steady_uint64 : uint64.Steady depth := steady_readInt fun _ _ => rfl

@[simp]
theorem steady_uint32 : uint32.Steady depth := steady_readInt fun _ _ => rfl

/-! ## Values that may be absent, and lists -/

theorem read_orNull (c : Codec α) (absent : α) (n : Nat) {t : Tree} (there : t ≠ .null) :
    (c.orNull absent).read n t = c.read n t := by
  simp only [orNull, read_option c n there]
  cases c.read n t <;> rfl

theorem careful_option (careful : c.Careful) : (option c).Careful := by
  intro n t a taken
  by_cases null : t = .null
  · simp [null, Tree.passFault?]
  · rw [read_option c n null] at taken
    obtain ⟨value, found, -⟩ := exists_ok_of_map taken
    exact careful n t value found

@[simp]
theorem Steady.option (h : c.Steady depth) : (option c).Steady depth where
  careful := careful_option h.careful
  deep n t enough := by
    by_cases null : t = .null
    · subst null
      rfl
    · rw [read_option c n null, read_option c depth null, h.deep n t enough]

theorem careful_orNull (careful : c.Careful) (absent : α) : (c.orNull absent).Careful := by
  intro n t a taken
  obtain ⟨value, found, -⟩ := exists_ok_of_map taken
  exact careful_option careful n t value found

theorem eq_of_closing {close : Option Halt} {value a : α} (h : closing close value = .ok a) :
    close = none ∧ value = a := by
  cases close with
  | none => exact ⟨rfl, Except.ok.inj h⟩
  | some halt => cases h

/-- A list is taken out of the tree of an array that is closed, each value out of its tree. -/
theorem read_list_eq_ok_iff {n : Nat} {t : Tree} {values : List α} :
    (list c).read (n + 1) t = .ok values ↔
      ∃ items, t = .array items none ∧
        List.Forall₂ (fun t a => c.read n t = .ok a) items values := by
  constructor
  · intro taken
    cases t with
    | array items close =>
      obtain ⟨found, each, closed⟩ := exists_ok_of_bind taken
      obtain ⟨rfl, rfl⟩ := eq_of_closing closed
      exact ⟨items, rfl, mapM_eq_ok_iff.mp each⟩
    | _ => cases taken
  · rintro ⟨items, rfl, each⟩
    have found := mapM_eq_ok_iff.mpr each
    simp only [list, found]
    rfl

/-- Where values have been taken out of trees one by one, all these trees can be passed over. -/
theorem Careful.items (careful : c.Careful) {n : Nat} {items : List Tree} {values : List α}
    (each : List.Forall₂ (fun t a => c.read n t = .ok a) items values) :
    itemsPassFault? items = none := by
  refine itemsPassFault?_eq_none.mpr fun t there => ?_
  obtain ⟨i, inside, rfl⟩ := List.getElem_of_mem there
  have short := each.length_eq ▸ inside
  exact careful n _ _ (List.forall₂_iff_get.mp each |>.2 i inside short)

theorem careful_list (careful : c.Careful) : (list c).Careful := by
  intro n t a taken
  cases n with
  | zero => cases t <;> cases taken
  | succ n =>
    obtain ⟨items, rfl, each⟩ := read_list_eq_ok_iff.mp taken
    simp [Tree.passFault?, careful.items each]

@[simp]
theorem Steady.list (h : c.Steady depth) : (list c).Steady (depth + 1) where
  careful := careful_list h.careful
  deep n t enough := by
    obtain ⟨n, rfl⟩ : ∃ m, n = m + 1 := ⟨n - 1, by omega⟩
    have same : c.read n = c.read depth := funext fun t => h.deep n t (by omega)
    cases t with
    | array items close =>
      simp only [Codec.list, same]
    | _ => rfl

end Codec

/-! ## Records -/

namespace Record

variable {σ : Type} {fs : List (Field σ)} {depth : Nat}

/-- A field that has been read has been taken out of a tree that can be passed over. -/
theorem passes_of_readField {n : Nat} {f : Field σ} {t : Tree} {r r' : σ}
    (careful : f.codec.Careful) (found : readField n f t r = .ok r') : t.passFault? = none := by
  obtain ⟨value, taken, -⟩ := exists_ok_of_map found
  exact careful n t value taken

theorem passes_of_readFields (careful : ∀ f ∈ fs, f.codec.Careful) {n : Nat} {seen : List String}
    {ms : List (Except Fault String × Tree)} {r r' : σ}
    (found : readFields fs n seen ms r = .ok r') : membersPassFault? ms = none := by
  induction ms generalizing seen r with
  | nil => rfl
  | cons m ms ih =>
    obtain ⟨name, t⟩ := m
    rw [readFields] at found
    obtain ⟨name, -, found⟩ := exists_ok_of_bind found
    have passes : t.passFault? = none ∧ membersPassFault? ms = none := by
      split at found
      case h_1 =>
        split at found
        case h_1 => cases found
        case h_2 unfaulted => exact ⟨unfaulted, ih found⟩
      case h_2 f isField =>
        split at found
        · cases found
        · obtain ⟨r'', first, found⟩ := exists_ok_of_bind found
          have among := List.mem_of_find?_eq_some isField
          exact ⟨passes_of_readField (careful f among) first, ih found⟩
    rw [membersPassFault?, passes.1, passes.2]
    rfl

theorem passes_of_readPositions (careful : ∀ f ∈ fs, f.codec.Careful) {n : Nat}
    {items : List Tree} {r r' : σ} (found : readPositions n fs items r = .ok r') :
    itemsPassFault? items = none := by
  induction fs generalizing items r with
  | nil =>
    cases items with
    | nil => rfl
    | cons => cases found
  | cons f fs ih =>
    obtain ⟨mine, others⟩ := List.forall_mem_cons.mp careful
    cases items with
    | nil => rfl
    | cons t items =>
      obtain ⟨r'', first, more⟩ := exists_ok_of_bind found
      rw [itemsPassFault?, passes_of_readField mine first, ih others more]
      rfl

theorem readFields_deep (deep : ∀ f ∈ fs, f.codec.Steady depth) {n : Nat} (enough : depth ≤ n)
    (seen : List String) (ms : List (Except Fault String × Tree)) (r : σ) :
    readFields fs n seen ms r = readFields fs depth seen ms r := by
  induction ms generalizing seen r with
  | nil => rfl
  | cons m ms ih =>
    obtain ⟨name, t⟩ := m
    rw [readFields, readFields]
    congr 1
    funext name
    split
    · simp only [ih]
    · rename_i f isField
      have steady := deep f (List.mem_of_find?_eq_some isField)
      simp only [readField, steady.deep n t enough, ih]

theorem readPositions_deep (deep : ∀ f ∈ fs, f.codec.Steady depth) {n : Nat} (enough : depth ≤ n)
    (items : List Tree) (r : σ) : readPositions n fs items r = readPositions depth fs items r := by
  induction fs generalizing items r with
  | nil => cases items <;> rfl
  | cons f fs ih =>
    obtain ⟨mine, others⟩ := List.forall_mem_cons.mp deep
    cases items with
    | nil => rfl
    | cons t items =>
      simp only [readPositions, readField, mine.deep n t enough, ih others]

/-- The fields of a record are places of their own, and nothing else is in the record. The forms of
their values are steady where that many arrays and objects may be opened. -/
structure Places (σ : Type) [Record σ] (depth : Nat) : Prop where
  steady : ∀ f ∈ (fields : List (Field σ)), f.codec.Steady depth
  distinct : ((fields : List (Field σ)).map (·.name)).Nodup
  own : ∀ f ∈ (fields : List (Field σ)), ∀ value r, f.get (f.set value r) = value
  apart : ∀ f ∈ (fields : List (Field σ)), ∀ g ∈ (fields : List (Field σ)),
    f.name = g.name ∨ ∀ value r, g.get (f.set value r) = g.get r
  whole : ∀ r : σ, (fields : List (Field σ)).foldl (fun done f => f.set (f.get r) done) blank = r

/-- Records are steady if they have places. -/
@[simp]
theorem Places.steady_codec [Record σ] (places : Places σ depth) :
    (codec σ).Steady (depth + 1) where
  careful n t r taken := by
    have careful : ∀ f ∈ (fields : List (Field σ)), f.codec.Careful := fun f there =>
      (places.steady f there).careful
    cases n with
    | zero => cases t <;> cases taken
    | succ n =>
      cases t with
      | array items close =>
        obtain ⟨r', found, closed⟩ := exists_ok_of_bind taken
        obtain ⟨rfl, -⟩ := Codec.eq_of_closing closed
        simp [Tree.passFault?, passes_of_readPositions careful found]
      | object ms close =>
        obtain ⟨r', found, closed⟩ := exists_ok_of_bind taken
        obtain ⟨rfl, -⟩ := Codec.eq_of_closing closed
        simp [Tree.passFault?, passes_of_readFields careful found]
      | _ => cases taken
  deep n t enough := by
    obtain ⟨n, rfl⟩ : ∃ m, n = m + 1 := ⟨n - 1, by omega⟩
    have enough' : depth ≤ n := by omega
    cases t with
    | array items close => simp only [codec, readPositions_deep places.steady enough']
    | object ms close => simp only [codec, readFields_deep places.steady enough']
    | _ => rfl

end Record

end ExplorerClient.Json

namespace ExplorerClient

open Json

/-! ## The types of records

Only the records that hold other ones need the laws of these. -/

section

attribute [local simp] Record.fields Record.blank Field.always Field.optional

theorem AddressInfo.places : Record.Places AddressInfo 0 :=
  ⟨by simp, by decide, by simp, by simp, by simp⟩

theorem Balance.places : Record.Places Balance 0 :=
  ⟨by simp, by decide, by simp, by simp, by simp⟩

theorem AddressBalance.places : Record.Places AddressBalance 0 :=
  ⟨by simp, by decide, by simp, by simp, by simp⟩

theorem HistoryEntry.places : Record.Places HistoryEntry 0 :=
  ⟨by simp, by decide, by simp, by simp, by simp⟩

theorem HistoryPage.places : Record.Places HistoryPage 2 :=
  ⟨by simp [HistoryEntry.places], by decide, by simp, by simp, by simp⟩

theorem UnspentOutput.places : Record.Places UnspentOutput 0 :=
  ⟨by simp, by decide, by simp, by simp, by simp⟩

theorem UnspentPage.places : Record.Places UnspentPage 2 :=
  ⟨by simp [UnspentOutput.places], by decide, by simp, by simp, by simp⟩

theorem ScriptSig.places : Record.Places ScriptSig 1 :=
  ⟨by simp, by decide, by simp, by simp, by simp⟩

theorem TxInput.places : Record.Places TxInput 2 :=
  ⟨by simp [ScriptSig.places], by decide, by simp, by simp, by simp⟩

theorem ScriptPubKey.places : Record.Places ScriptPubKey 1 :=
  ⟨by simp, by decide, by simp, by simp, by simp⟩

theorem TxOutput.places : Record.Places TxOutput 2 :=
  ⟨by simp [ScriptPubKey.places], by decide, by simp, by simp, by simp⟩

theorem TxInfo.places : Record.Places TxInfo 4 :=
  ⟨by simp [TxInput.places, TxOutput.places], by decide, by simp, by simp, by simp⟩

theorem TxStatus.places : Record.Places TxStatus 0 :=
  ⟨by simp, by decide, by simp, by simp, by simp⟩

theorem Outpoint.places : Record.Places Outpoint 0 :=
  ⟨by simp, by decide, by simp, by simp, by simp⟩

theorem SpentIn.places : Record.Places SpentIn 0 :=
  ⟨by simp, by decide, by simp, by simp, by simp⟩

theorem SpentOutput.places : Record.Places SpentOutput 1 :=
  ⟨by simp [Outpoint.places, SpentIn.places], by decide, by simp, by simp, by simp⟩

theorem BlockPages.places : Record.Places BlockPages 1 :=
  ⟨by simp, by decide, by simp, by simp, by simp⟩

theorem BlockInfo.places : Record.Places BlockInfo 2 :=
  ⟨by simp [BlockPages.places], by decide, by simp, by simp, by simp⟩

theorem BlockHeader.places : Record.Places BlockHeader 0 :=
  ⟨by simp, by decide, by simp, by simp, by simp⟩

theorem ChainInfo.places : Record.Places ChainInfo 0 :=
  ⟨by simp, by decide, by simp, by simp, by simp⟩

theorem ChainTip.places : Record.Places ChainTip 0 :=
  ⟨by simp, by decide, by simp, by simp, by simp⟩

theorem PeerInfo.places : Record.Places PeerInfo 0 :=
  ⟨by simp, by decide, by simp, by simp, by simp⟩

theorem MempoolInfo.places : Record.Places MempoolInfo 0 :=
  ⟨by simp, by decide, by simp, by simp, by simp⟩

theorem ExchangeRate.places : Record.Places ExchangeRate 0 :=
  ⟨by simp, by decide, by simp, by simp, by simp⟩

theorem BroadcastFeedback.places : Record.Places BroadcastFeedback 0 :=
  ⟨by simp, by decide, by simp, by simp, by simp⟩

end

end ExplorerClient
