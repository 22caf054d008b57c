import ExplorerClient.Proofs.Payload
import Mathlib.Algebra.GroupWithZero.Nat

/-!
# Transactions that are broadcast together

A batch of transactions is held against four limits, one after the other: there has to be one, there
may not be too many, none may be too large, and the text that holds them all may not be too large
either. The last limit is on the text as it is sent, with its quotes and commas. The digits of a
transaction are written as they are, so that the size of the text follows from their number alone.

Results:
* `Json.size_texts`: the size of an array of texts.
* `TransactionQuery.batchText_size`: the size of the text of a batch of digits.
* `TransactionQuery.requireBatch_eq_ok_iff`, `requireBatch_eq_error_iff`: what a batch is refused
  for.
* `TransactionQuery.full_limited`: the last limit can be reached, and passed by one digit.
* `Operation.batch_limited`: what becomes of a batch.
-/

namespace ExplorerClient

variable {ε σ : Type}

/-! ## Sizes of texts -/

namespace Json

theorem size_commas (part : String) (rest : List String) :
    (commas (part :: rest)).utf8ByteSize =
      ((part :: rest).map String.utf8ByteSize).sum + rest.length := by
  induction rest generalizing part with
  | nil => simp [commas_singleton]
  | cons next rest ih =>
    have later := ih next
    have comma : ",".utf8ByteSize = 1 := rfl
    rw [commas] at later ⊢
    rw [String.intercalate_cons_cons, String.utf8ByteSize_append, String.utf8ByteSize_append,
      later, comma]
    simp only [List.map_cons, List.sum_cons, List.length_cons]
    omega

/-- An array of texts is its brackets, the texts in their quotes, and a comma between two of
them. -/
theorem size_texts {xs : List String} (there : xs ≠ []) :
    (Value.texts xs).render.utf8ByteSize =
      1 + xs.length + (xs.map fun x => (quote x).utf8ByteSize).sum := by
  obtain ⟨x, rest, rfl⟩ := List.exists_cons_of_ne_nil there
  have items : ∀ ys : List String, renderItems (ys.map .text) = ys.map quote := by
    intro ys
    induction ys with
    | nil => rfl
    | cons y ys ih => rw [List.map_cons, renderItems, ih, Value.render, List.map_cons]
  have brackets : "[".utf8ByteSize = 1 ∧ "]".utf8ByteSize = 1 := ⟨rfl, rfl⟩
  rw [Value.texts, Value.render, items, String.utf8ByteSize_append, String.utf8ByteSize_append,
    brackets.1, brackets.2, List.map_cons, size_commas]
  simp only [List.map_cons, List.map_map, List.sum_cons, List.length_cons, List.length_map,
    Function.comp_def]
  omega

/-- A text without characters that have to be escaped is written between two quotes. -/
theorem size_quote {s : String} (plain : ∀ c ∈ s.toList, quoteChar c = [c]) :
    (quote s).utf8ByteSize = s.utf8ByteSize + 2 := by
  have kept : s.toList.flatMap quoteChar = s.toList := by
    generalize s.toList = cs at plain
    induction cs with
    | nil => rfl
    | cons c cs ih =>
      have first := plain c List.mem_cons_self
      rw [List.flatMap_cons, first, ih fun d there => plain d (List.mem_cons_of_mem c there)]
      rfl
  have written : quote s = "\x22" ++ s ++ "\x22" := by
    rw [← String.toList_inj, quote, kept]
    simp
  have mark : "\x22".utf8ByteSize = 1 := rfl
  rw [written, String.utf8ByteSize_append, String.utf8ByteSize_append, mark]
  omega

/-- Digits are written as they are. -/
theorem quoteChar_hex {c : Char} (digit : c.isHexDigit = true) : quoteChar c = [c] := by
  have range : 48 ≤ c.toNat ∧ c.toNat ≤ 57 ∨ 97 ≤ c.toNat ∧ c.toNat ≤ 102 ∨
      65 ≤ c.toNat ∧ c.toNat ≤ 70 := by
    simp only [Char.isHexDigit, Char.isDigit, Bool.or_eq_true, Bool.and_eq_true,
      decide_eq_true_eq, ge_iff_le, UInt32.le_iff_toNat_le] at digit
    have bounds : '0'.val.toNat = 48 ∧ '9'.val.toNat = 57 ∧ 'a'.val.toNat = 97 ∧
        'f'.val.toNat = 102 ∧ 'A'.val.toNat = 65 ∧ 'F'.val.toNat = 70 := by decide
    show 48 ≤ c.val.toNat ∧ c.val.toNat ≤ 57 ∨ 97 ≤ c.val.toNat ∧ c.val.toNat ≤ 102 ∨
      65 ≤ c.val.toNat ∧ c.val.toNat ≤ 70
    omega
  have other : ∀ d : Char, d.toNat = 34 ∨ d.toNat = 92 → c ≠ d := by
    rintro d known rfl
    omega
  exact quoteChar_eq_self (other _ (Or.inl rfl)) (other _ (Or.inr rfl)) (by omega)

end Json

/-! ## Limits -/

namespace TransactionQuery

/-- What a batch is refused for: that of the limits which is looked at first. -/
inductive Flawed (txs : List String) : Error → Prop
  | empty (h : txs = []) : Flawed txs .missingRequest
  | many (h : 100 < txs.length) : Flawed txs (.limitExceeded .transactions)
  | large (there : 1 ≤ txs.length) (few : txs.length ≤ 100)
    (h : ∃ tx ∈ txs, 102400 < (tx.utf8ByteSize + 1) / 2) :
    Flawed txs (.limitExceeded .transactionSize)
  | heavy (there : 1 ≤ txs.length) (few : txs.length ≤ 100)
    (small : ∀ tx ∈ txs, (tx.utf8ByteSize + 1) / 2 ≤ 102400)
    (h : 10485760 < (batchText txs).utf8ByteSize) : Flawed txs (.limitExceeded .payloadSize)

/-- A batch within all limits. -/
structure Fits (txs : List String) : Prop where
  there : 1 ≤ txs.length
  few : txs.length ≤ 100
  /-- Two digits are a byte, and so is one that is left over. -/
  small : ∀ tx ∈ txs, (tx.utf8ByteSize + 1) / 2 ≤ 102400
  light : (batchText txs).utf8ByteSize ≤ 10485760

variable {txs : List String}

theorem met_batch : Met (Requirement.batch txs) ↔ Fits txs := by
  simp only [Met, Requirement.batch, Requirement.count, List.cons_append, List.nil_append,
    List.forall_mem_cons]
  constructor
  · rintro ⟨there, few, small, light, -⟩
    exact ⟨List.length_pos_iff.mpr there, few, small, light⟩
  · rintro ⟨there, few, small, light⟩
    exact ⟨List.length_pos_iff.mp there, few, small, light, List.forall_mem_nil _⟩

theorem Flawed.firstUnmet {e : Error} (h : Flawed txs e) :
    FirstUnmet (Requirement.batch txs) e := by
  cases h with
  | empty h =>
    exact ⟨[], _, _, rfl, List.forall_mem_nil _, fun there => there h, rfl⟩
  | many h =>
    have there : txs ≠ [] := List.length_pos_iff.mp (by omega)
    exact ⟨[⟨txs ≠ [], _⟩], _, _, rfl, by simpa [Met] using there, Nat.not_le_of_lt h, rfl⟩
  | large there few h =>
    have met : Met (Requirement.count .transactions 100 txs) := Requirement.count_met there few
    refine ⟨_, _, _, rfl, met, fun small => ?_, rfl⟩
    obtain ⟨tx, among, long⟩ := h
    exact absurd (small tx among) (Nat.not_le_of_lt long)
  | heavy there few small h =>
    have met : Met (Requirement.count .transactions 100 txs ++
        [⟨∀ tx ∈ txs, (tx.utf8ByteSize + 1) / 2 ≤ 102400, .limitExceeded .transactionSize⟩]) :=
      met_append.mpr ⟨Requirement.count_met there few, by simpa [Met] using small⟩
    exact ⟨_, _, [], rfl, met, Nat.not_le_of_lt h, rfl⟩

theorem fits_or_flawed (txs : List String) : Fits txs ∨ ∃ e, Flawed txs e := by
  by_cases there : 1 ≤ txs.length
  · by_cases few : txs.length ≤ 100
    · by_cases small : ∀ tx ∈ txs, (tx.utf8ByteSize + 1) / 2 ≤ 102400
      · by_cases light : (batchText txs).utf8ByteSize ≤ 10485760
        · exact Or.inl ⟨there, few, small, light⟩
        · exact Or.inr ⟨_, .heavy there few small (Nat.lt_of_not_le light)⟩
      · push Not at small
        exact Or.inr ⟨_, .large there few small⟩
    · exact Or.inr ⟨_, .many (Nat.lt_of_not_le few)⟩
  · exact Or.inr ⟨_, .empty (List.length_eq_zero_iff.mp (by omega))⟩

theorem requireBatch_eq_ok_iff :
    requireBatch txs (batchText txs).utf8ByteSize = .ok () ↔ Fits txs :=
  (requireBatch_decides txs).ok_iff.trans met_batch

theorem requireBatch_eq_error_iff {e : Error} :
    requireBatch txs (batchText txs).utf8ByteSize = .error e ↔ Flawed txs e := by
  rw [(requireBatch_decides txs).error_iff]
  refine ⟨fun unmet => ?_, Flawed.firstUnmet⟩
  rcases fits_or_flawed txs with fits | ⟨e', flawed⟩
  · exact absurd (met_batch.mpr fits) unmet.not_met
  · rw [unmet.unique flawed.firstUnmet]
    exact flawed

/-! ## Batches of digits -/

/-- All transactions of a batch are given by hexadecimal digits. -/
def Hex (txs : List String) : Prop := ∀ tx ∈ txs, ∀ c ∈ tx.toList, c.isHexDigit = true

/-- The size of the text of a batch of digits. There is no text for a batch that is empty. -/
theorem batchText_size (hex : Hex txs) (there : txs ≠ []) :
    (batchText txs).utf8ByteSize = 1 + 3 * txs.length + (txs.map String.utf8ByteSize).sum := by
  have quoted : txs.map (fun tx => (Json.quote tx).utf8ByteSize) =
      txs.map fun tx => tx.utf8ByteSize + 2 :=
    List.map_congr_left fun tx among =>
      Json.size_quote fun c digit => Json.quoteChar_hex (hex tx among c digit)
  have marks : (txs.map fun tx => tx.utf8ByteSize + 2).sum =
      (txs.map String.utf8ByteSize).sum + 2 * txs.length := by
    clear quoted hex there
    induction txs with
    | nil => rfl
    | cons tx txs ih =>
      simp only [List.map_cons, List.sum_cons, List.length_cons, ih]
      omega
  rw [batchText, Json.size_texts there, quoted, marks]
  omega

/-- A transaction of that many digits. -/
def zeros (n : Nat) : String := String.ofList (List.replicate n '0')

theorem size_zeros (n : Nat) : (zeros n).utf8ByteSize = n := by
  induction n with
  | zero => rfl
  | succ n ih =>
    have digit : '0'.utf8Size = 1 := rfl
    rw [zeros] at ih ⊢
    rw [List.replicate_succ, String.ofList_cons, String.utf8ByteSize_append, ih,
      String.utf8ByteSize_singleton, digit]
    omega

/-- Transactions that are as large as they may be, and one of that many digits. -/
def full (n : Nat) : List String := List.replicate 51 (zeros 204800) ++ [zeros n]

theorem mem_full {n : Nat} {tx : String} (h : tx ∈ full n) :
    tx = zeros 204800 ∨ tx = zeros n := by
  rcases List.mem_append.mp h with h | h
  · exact Or.inl (List.eq_of_mem_replicate h)
  · exact Or.inr (List.mem_singleton.mp h)

theorem hex_full (n : Nat) : Hex (full n) := by
  have digits : ∀ m, ∀ c ∈ (zeros m).toList, c.isHexDigit = true := by
    intro m c there
    rw [zeros, String.toList_ofList] at there
    rw [List.eq_of_mem_replicate there]
    rfl
  intro tx there
  rcases mem_full there with rfl | rfl
  · exact digits 204800
  · exact digits n

theorem length_full (n : Nat) : (full n).length = 52 := by
  rw [full, List.length_append, List.length_replicate]
  rfl

theorem size_full (n : Nat) : (batchText (full n)).utf8ByteSize = 10444957 + n := by
  have there : full n ≠ [] := List.length_pos_iff.mp (by rw [length_full]; decide)
  have sizes : (full n).map String.utf8ByteSize = List.replicate 51 204800 ++ [n] := by
    rw [full, List.map_append, List.map_replicate, List.map_singleton, size_zeros, size_zeros]
  rw [batchText_size (hex_full n) there, length_full, sizes, List.sum_append,
    List.sum_replicate_nat, List.sum_singleton]
  omega

theorem small_full {n : Nat} (h : n ≤ 204800) :
    ∀ tx ∈ full n, (tx.utf8ByteSize + 1) / 2 ≤ 102400 := by
  intro tx there
  rcases mem_full there with rfl | rfl
  · rw [size_zeros]
  · rw [size_zeros]
    omega

/-- The last limit can be reached, and passed by one digit while all others are kept. -/
theorem full_limited {n : Nat} (h : n ≤ 204800) :
    (n ≤ 40803 → Fits (full n)) ∧ (40803 < n → Flawed (full n) (.limitExceeded .payloadSize)) := by
  have count := length_full n
  have there : 1 ≤ (full n).length := by omega
  have few : (full n).length ≤ 100 := by omega
  constructor
  · intro short
    refine ⟨there, few, small_full h, ?_⟩
    rw [size_full]
    omega
  · intro long
    refine .heavy there few (small_full h) ?_
    rw [size_full]
    omega

/-- The numbers of digits decide about a batch. -/
theorem requireBatch_congr {txs' : List String} (hex : Hex txs) (hex' : Hex txs')
    (same : txs.map String.utf8ByteSize = txs'.map String.utf8ByteSize) :
    requireBatch txs (batchText txs).utf8ByteSize =
      requireBatch txs' (batchText txs').utf8ByteSize := by
  have count : txs.length = txs'.length := by
    simpa using congrArg List.length same
  have large : (txs.any fun tx => maxTransactionSize < sizeOfHex tx) =
      txs'.any fun tx => maxTransactionSize < sizeOfHex tx := by
    have sizes := congrArg (List.any · fun n => maxTransactionSize < (n + 1) / 2) same
    rw [List.any_map, List.any_map] at sizes
    exact sizes
  have text : (batchText txs).utf8ByteSize = (batchText txs').utf8ByteSize := by
    by_cases there : txs = []
    · have none_there : txs' = [] := by
        rw [there] at count
        exact List.length_eq_zero_iff.mp count.symm
      rw [there, none_there]
    · have there' : txs' ≠ [] := by
        intro none_there
        rw [none_there] at count
        exact there (List.length_eq_zero_iff.mp count)
      rw [batchText_size hex there, batchText_size hex' there', count, same]
  unfold requireBatch
  rw [count, large, text]

end TransactionQuery

/-! ## What becomes of a batch -/

open TransactionQuery

/-- A batch is sent if it is within all limits, and its text is what is sent. Otherwise nothing is
sent, and the first limit that it is not within is reported. The size of the text of a batch of
digits follows from the numbers of digits; so they decide whether it is sent, and the limit on the
text is one that batches can reach. A batch of nothing is refused: its text would be two brackets,
where the rule for the others gives one byte. What is sent is what the log of a watched wiring
shows. -/
theorem Operation.batch_limited (w : Wiring ε σ) (ctx : Context) (txs : List String)
    (feedback : Bool) (live : Live ε σ) :
    let q : Query := .transaction (.broadcastBatch txs feedback)
    let op : Operation := .query q
    (q.inquiry.guard = .ok () ↔ Fits txs) ∧
    (∀ e, q.inquiry.guard = .error e ↔ Flawed txs e) ∧
    (Fits txs → Met (Requirement.headers live.client.options) →
      ∃ a, (op.course w ctx live).asked = [a] ∧ a.query = q ∧
        a.request.body = some (.buffered (Json.Value.texts txs).render.toUTF8)) ∧
    (∀ e, Flawed txs e →
      (op.course w ctx live).asked = [] ∧ op.call w ctx live = some (.error e, live)) ∧
    (Hex txs →
      (txs ≠ [] → (Json.Value.texts txs).render.utf8ByteSize =
        1 + 3 * txs.length + (txs.map String.utf8ByteSize).sum) ∧
      (txs = [] → q.inquiry.guard = .error .missingRequest ∧
        (Json.Value.texts txs).render.utf8ByteSize = 2 ∧
        1 + 3 * txs.length + (txs.map String.utf8ByteSize).sum = 1) ∧
      ∀ txs' feedback', Hex txs' → txs.map String.utf8ByteSize = txs'.map String.utf8ByteSize →
        q.inquiry.guard = (Query.transaction (.broadcastBatch txs' feedback')).inquiry.guard) ∧
    (∃ light heavy, Hex light ∧ Fits light ∧ (batchText light).utf8ByteSize = 10485760 ∧
      Hex heavy ∧ Flawed heavy (.limitExceeded .payloadSize) ∧
      (batchText heavy).utf8ByteSize = 10485761) ∧
    ∀ seen, ∃ new, op.Logged w ctx live seen new := by
  intro q op
  have fits_met : Fits txs → Met (q.requirements live.client.options.chain) := by
    intro fits
    rw [Query.requirements_payload (p := .batch txs) rfl]
    exact met_batch.mpr fits
  refine ⟨requireBatch_eq_ok_iff, fun e => requireBatch_eq_error_iff, ?_, ?_, ?_, ?_,
    op.logged w ctx live⟩
  · intro fits headers
    obtain ⟨a, asked, same, handed⟩ := Query.course_asks w ctx (fits_met fits) headers
    obtain ⟨-, -, body⟩ := Client.request_ok (Query.handed_ok handed).2
    exact ⟨a, (query_asked w ctx q live).trans asked, same, body⟩
  · intro e flawed
    refine Operation.call_refused ?_
    have unmet : FirstUnmet (q.requirements live.client.options.chain) e := by
      rw [Query.requirements_payload (p := .batch txs) rfl]
      exact flawed.firstUnmet
    exact unmet.append _
  · intro hex
    refine ⟨batchText_size hex, ?_, fun txs' feedback' hex' same =>
      requireBatch_congr hex hex' same⟩
    rintro rfl
    exact ⟨requireBatch_eq_error_iff.mpr (.empty rfl), by decide +kernel, rfl⟩
  · refine ⟨full 40803, full 40804, hex_full _, ?_, size_full _, hex_full _, ?_, size_full _⟩
    · exact (full_limited (by decide)).1 (by decide)
    · exact (full_limited (by decide)).2 (by decide)

theorem Operation.batch_limited_pair :
    Fits ["0100", "0200"] ∧
    ∃ a, ((Operation.query (.transaction (.broadcastBatch ["0100", "0200"] true))).course barren
        ⟨⟨[0]⟩, none⟩ ⟨⟨{}, .standard, {}, {}, .supplied (), {}⟩, .start, ()⟩).asked = [a] ∧
      a.request.body = some (.buffered "[\x220100\x22,\x220200\x22]".toUTF8) := by
  have written : (Json.Value.texts ["0100", "0200"]).render = "[\x220100\x22,\x220200\x22]" := by
    cbv
  have light : (batchText ["0100", "0200"]).utf8ByteSize ≤ 10485760 := by
    rw [batchText, written]
    decide
  have fits : Fits ["0100", "0200"] := ⟨by decide, by decide, by decide, light⟩
  obtain ⟨-, -, sent, -⟩ := Operation.batch_limited barren ⟨⟨[0]⟩, none⟩ ["0100", "0200"] true
    ⟨⟨{}, .standard, {}, {}, .supplied (), {}⟩, .start, ()⟩
  obtain ⟨a, asked, -, body⟩ := sent fits Requirement.headers_standard
  rw [written] at body
  exact ⟨fits, a, asked, body⟩

end ExplorerClient
