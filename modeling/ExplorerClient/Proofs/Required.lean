import ExplorerClient.Proofs.Logged
import ExplorerClient.Proofs.Pieces
import Mathlib.Data.List.TakeWhile

/-!
# What has to hold before anything is sent

Every operation has a list of requirements: those on its arguments, the one on the chain, and those
on what the headers carry. They are looked at in order. If all are met the executor of the client is
asked, and otherwise the first that is not met is reported and nothing happens.

Results:
* `Decides.bind`: requirements are looked at one after the other.
* `Query.handed_decides`: a query makes a request exactly when its requirements are met.
* `Course.Gated`: what the requirements decide about a course.
* `Operation.entered_iff_met`: what they decide about an operation.
-/

namespace ExplorerClient

variable {ε σ α β : Type}

/-! ## Requirements -/

/-- Something that has to hold, and the error if it does not. -/
structure Requirement where
  holds : Prop
  error : Error

/-- All requirements hold. -/
def Met (rs : List Requirement) : Prop := ∀ r ∈ rs, r.holds

/-- The error is that of the first requirement that does not hold. -/
def FirstUnmet (rs : List Requirement) (e : Error) : Prop :=
  ∃ before r after, rs = before ++ r :: after ∧ Met before ∧ ¬ r.holds ∧ r.error = e

/-- Can a header carry the value? -/
def Carriable (value : String) : Prop :=
  ∀ c ∈ value.toList, c = '\t' ∨ 0x20 ≤ c.toNat ∧ c.toNat ≠ 0x7f

namespace Requirement

/-- A list that is not empty, of at most so many elements. -/
def count (what : Bounded) (most : Nat) (xs : List α) : List Requirement :=
  [⟨xs ≠ [], .missingRequest⟩, ⟨xs.length ≤ most, .limitExceeded what⟩]

/-- A chain that the endpoint exists on. -/
def chain (required configured : Chain) : Requirement :=
  ⟨configured = required, .chainRequired required⟩

/-- A range that does not end before it starts. -/
def range (first last : Int) : Requirement :=
  ⟨first ≤ last, .badRequest
    ("range start " ++ Int.repr first ++ " is after range end " ++ Int.repr last)⟩

/-- A text that is not blank. -/
def spoken (text : String) : Requirement :=
  ⟨∃ c ∈ text.toList, Text.isBlank c = false, .missingRequest⟩

/-- Transactions that may be broadcast together: their number, the size of each in bytes of two
digits, and the size of the text that holds them all. -/
def batch (txs : List String) : List Requirement :=
  count .transactions 100 txs ++
    [⟨∀ tx ∈ txs, (tx.utf8ByteSize + 1) / 2 ≤ 102400, .limitExceeded .transactionSize⟩,
      ⟨(Json.Value.texts txs).render.utf8ByteSize ≤ 10485760, .limitExceeded .payloadSize⟩]

/-- A name and a key that headers can carry. -/
def headers (options : Options) : List Requirement :=
  [⟨Carriable options.userAgent, .invalidHeader "user-agent"⟩,
    ⟨∀ key, options.apiKey = some key → Carriable key, .invalidHeader "woc-api-key"⟩]

end Requirement

/-- The requirements of a query on its arguments. -/
def Query.arguments : Query → List Requirement
  | .address (.confirmedBalances xs) | .address (.unconfirmedBalances xs)
  | .address (.confirmedUnspents xs) => Requirement.count .addresses 20 xs
  | .script (.confirmedUnspents xs) => Requirement.count .scripts 20 xs
  | .network (.historicalRates first last) => [Requirement.range first last]
  | .transaction (.details xs) | .transaction (.statuses xs) =>
    Requirement.count .transactions 20 xs
  | .transaction (.spentOutputs xs) => Requirement.count .utxos 20 xs
  | .transaction (.broadcast tx) => [Requirement.spoken tx]
  | .transaction (.broadcastBatch txs _) => Requirement.batch txs
  | _ => []

/-- The chain that a query can only be asked on, if there is one. -/
def Query.chain? : Query → Option Chain
  | .address (.used _) | .address (.statement _) | .script (.used _) | .block (.minerStats _)
  | .token _ | .transaction (.opReturn _) | .transaction (.propagation _) => some .bsv
  | .block (.txids _) => some .btc
  | _ => none

/-- The requirements of a query on its arguments and on the chain. -/
def Query.requirements (q : Query) (configured : Chain) : List Requirement :=
  q.arguments ++ (q.chain?.map (Requirement.chain · configured)).toList

/-- The requirements of an operation, in the order in which they are looked at. -/
def Operation.requirements (op : Operation) (options : Options) : List Requirement :=
  let own := match op with
    | .query q => q.requirements options.chain
    | .balance _ | .history _ => []
    | .allBalances xs | .allUnspents xs | .allDetails xs => [⟨xs ≠ [], .missingRequest⟩]
  own ++ Requirement.headers options

/-! ## Looking at requirements -/

theorem met_append {rs ss : List Requirement} : Met (rs ++ ss) ↔ Met rs ∧ Met ss :=
  List.forall_mem_append

theorem FirstUnmet.append {rs : List Requirement} {e : Error} (h : FirstUnmet rs e)
    (ss : List Requirement) : FirstUnmet (rs ++ ss) e := by
  obtain ⟨before, r, after, rfl, met, unmet, same⟩ := h
  exact ⟨before, r, after ++ ss, by simp, met, unmet, same⟩

theorem FirstUnmet.behind {rs ss : List Requirement} {e : Error} (met : Met rs)
    (h : FirstUnmet ss e) : FirstUnmet (rs ++ ss) e := by
  obtain ⟨before, r, after, rfl, met', unmet, same⟩ := h
  exact ⟨rs ++ before, r, after, by simp, met_append.mpr ⟨met, met'⟩, unmet, same⟩

theorem FirstUnmet.not_met {rs : List Requirement} {e : Error} (h : FirstUnmet rs e) :
    ¬ Met rs := by
  obtain ⟨before, r, after, rfl, -, unmet, -⟩ := h
  exact fun met => unmet (met r (by simp))

/-- Requirements that have been met need not be looked at. -/
theorem FirstUnmet.drop {rs ss : List Requirement} {e : Error} (met : Met rs)
    (h : FirstUnmet (rs ++ ss) e) : FirstUnmet ss e := by
  obtain ⟨before, r, after, split, met', unmet, same⟩ := h
  rcases List.append_eq_append_iff.mp split with ⟨more, rfl, rest⟩ | ⟨more, rfl, rest⟩
  · exact ⟨more, r, after, rest, fun s hs => met' s (by simp [hs]), unmet, same⟩
  · cases more with
    | nil => exact ⟨[], r, after, by simpa using rest.symm, by simp [Met], unmet, same⟩
    | cons s more =>
      cases rest
      exact absurd (met r (by simp)) unmet

/-- There is only one first requirement that does not hold. -/
theorem FirstUnmet.unique {rs : List Requirement} {e e' : Error} (h : FirstUnmet rs e)
    (h' : FirstUnmet rs e') : e = e' := by
  obtain ⟨before, r, after, rfl, met, unmet, rfl⟩ := h
  obtain ⟨before', r', after', split, met', -, rfl⟩ := FirstUnmet.drop met h'
  cases before' with
  | nil =>
    cases split
    rfl
  | cons s before' =>
    obtain ⟨rfl, -⟩ := List.cons.inj split
    exact absurd (met' r List.mem_cons_self) unmet

/-- The requirements decide whether a step fails, and how. -/
def Decides (rs : List Requirement) : Except Error α → Prop
  | .ok _ => Met rs
  | .error e => FirstUnmet rs e

namespace Decides

theorem nil (a : α) : Decides [] (.ok a) := by simp [Decides, Met]

theorem single {p : Prop} [Decidable p] {r : Requirement} (same : r.holds ↔ p) (a : α) :
    Decides [r] (if p then .ok a else .error r.error) := by
  by_cases h : p
  · rw [if_pos h]
    simp [Decides, Met, same, h]
  · rw [if_neg h]
    exact ⟨[], r, [], rfl, by simp [Met], fun holds => h (same.mp holds), rfl⟩

theorem bind {rs ss : List Requirement} {x : Except Error α} {f : α → Except Error β}
    (hx : Decides rs x) (hf : ∀ a, x = .ok a → Decides ss (f a)) :
    Decides (rs ++ ss) (x >>= f) := by
  cases x with
  | error e => exact FirstUnmet.append hx ss
  | ok a =>
    have rest := hf a rfl
    show Decides (rs ++ ss) (f a)
    cases result : f a with
    | error e =>
      rw [result] at rest
      exact FirstUnmet.behind hx rest
    | ok b =>
      rw [result] at rest
      exact met_append.mpr ⟨hx, rest⟩

theorem map {rs : List Requirement} {x : Except Error α} (hx : Decides rs x) (f : α → β) :
    Decides rs (x >>= fun a => .ok (f a)) := by
  cases x <;> exact hx

theorem error_iff {rs : List Requirement} {x : Except Error α} (hx : Decides rs x) {e : Error} :
    x = .error e ↔ FirstUnmet rs e := by
  constructor
  · rintro rfl
    exact hx
  · intro unmet
    cases x with
    | error e' => exact congrArg Except.error (FirstUnmet.unique hx unmet)
    | ok a => exact absurd hx unmet.not_met

theorem ok_iff {rs : List Requirement} {x : Except Error Unit} (hx : Decides rs x) :
    x = .ok () ↔ Met rs := by
  cases x with
  | error e => exact ⟨fun same => (by cases same), fun met => absurd met (FirstUnmet.not_met hx)⟩
  | ok a => exact ⟨fun _ => hx, fun _ => rfl⟩

/-- What fails alike is decided alike. -/
theorem congr {rs : List Requirement} {x : Except Error α} {y : Except Error β}
    (hx : Decides rs x) (same : ∀ e, y = .error e ↔ x = .error e) : Decides rs y := by
  cases y with
  | error e =>
    rw [(same e).mp rfl] at hx
    exact hx
  | ok b =>
    cases x with
    | error e => exact absurd ((same e).mpr rfl) (by simp)
    | ok a => exact hx

end Decides

/-! ## The checks of a query -/

theorem requireCount_decides (what : Bounded) (most : Nat) (xs : List α) :
    Decides (Requirement.count what most xs) (requireCount what most xs.length) := by
  unfold requireCount
  by_cases empty : xs.length = 0
  · rw [if_pos empty]
    have none_there : xs = [] := List.eq_nil_of_length_eq_zero empty
    exact ⟨[], ⟨xs ≠ [], _⟩, _, rfl, by simp [Met], fun holds => holds none_there, rfl⟩
  · rw [if_neg empty]
    have there : xs ≠ [] := fun h => empty (by rw [h]; rfl)
    by_cases long : most < xs.length
    · rw [if_pos long]
      exact ⟨[⟨xs ≠ [], _⟩], ⟨xs.length ≤ most, _⟩, [], rfl, by simpa [Met] using there,
        Nat.not_le_of_lt long, rfl⟩
    · rw [if_neg long]
      have short : xs.length ≤ most := by omega
      simp [Decides, Met, Requirement.count, there, short]

theorem Text.stripEnds_eq_nil_iff {p : Char → Bool} {cs : List Char} :
    Text.stripEnds p cs = [] ↔ ∀ c ∈ cs, p c = true := by
  have front : ∀ c ∈ cs.takeWhile p, p c = true := fun c hc => List.mem_takeWhile_imp hc
  rw [Text.stripEnds, List.reverse_eq_nil_iff, List.dropWhile_eq_nil_iff]
  constructor
  · intro behind c hc
    rw [← List.takeWhile_append_dropWhile (p := p) (l := cs)] at hc
    rcases List.mem_append.mp hc with hc | hc
    · exact front c hc
    · exact behind c (List.mem_reverse.mpr hc)
  · intro all c hc
    exact all c (List.dropWhile_subset p (List.mem_reverse.mp hc))

theorem Text.trim_eq_empty_iff {text : String} :
    Text.trim text = "" ↔ ∀ c ∈ text.toList, Text.isBlank c = true := by
  rw [← Text.stripEnds_eq_nil_iff, Text.trim, ← String.toList_inj]
  simp

namespace TransactionQuery

theorem requireBatch_decides (txs : List String) :
    Decides (Requirement.batch txs) (requireBatch txs (batchText txs).utf8ByteSize) := by
  refine (requireCount_decides .transactions 100 txs).bind fun _ _ => ?_
  have sizes : (∀ tx ∈ txs, (tx.utf8ByteSize + 1) / 2 ≤ 102400) ↔
      ¬ (txs.any fun tx => maxTransactionSize < sizeOfHex tx) = true := by
    simp only [List.any_eq_true, decide_eq_true_eq, not_exists, not_and, Nat.not_lt]
    rfl
  by_cases large : (txs.any fun tx => maxTransactionSize < sizeOfHex tx) = true
  · rw [if_pos large]
    exact ⟨[], ⟨_, .limitExceeded .transactionSize⟩, _, rfl, by simp [Met],
      fun small => sizes.mp small large, rfl⟩
  · rw [if_neg large]
    have small := sizes.mpr large
    by_cases whole : maxBroadcastPayload < (batchText txs).utf8ByteSize
    · rw [if_pos whole]
      exact ⟨[⟨_, .limitExceeded .transactionSize⟩], ⟨_, .limitExceeded .payloadSize⟩, [], rfl,
        by simpa [Met] using small, Nat.not_le_of_lt whole, rfl⟩
    · rw [if_neg whole]
      have fits : (Json.Value.texts txs).render.utf8ByteSize ≤ 10485760 := Nat.le_of_not_lt whole
      simpa [Decides, Met] using ⟨small, fits⟩

theorem requireText_decides (tx : String) :
    Decides [Requirement.spoken tx] (requireText (Text.trim tx)) := by
  unfold requireText
  by_cases empty : Text.trim tx = ""
  · rw [if_pos empty]
    refine ⟨[], Requirement.spoken tx, [], rfl, by simp [Met], ?_, rfl⟩
    rintro ⟨c, hc, shown⟩
    rw [Text.trim_eq_empty_iff.mp empty c hc] at shown
    cases shown
  · rw [if_neg empty]
    have spoken : ∃ c ∈ tx.toList, Text.isBlank c = false := by
      rw [Text.trim_eq_empty_iff] at empty
      simpa using empty
    simpa [Decides, Met, Requirement.spoken] using spoken

end TransactionQuery

theorem NetworkQuery.requireRange_decides (first last : Int) :
    Decides [Requirement.range first last] (requireRange first last) := by
  unfold requireRange
  by_cases reversed : last < first
  · rw [if_pos reversed]
    exact ⟨[], Requirement.range first last, [], rfl, by simp [Met], Int.not_le_of_gt reversed, rfl⟩
  · rw [if_neg reversed]
    simpa [Decides, Met, Requirement.range] using reversed

theorem Query.guard_decides (q : Query) : Decides q.arguments q.inquiry.guard := by
  cases q with
  | address q =>
    cases q with
    | confirmedBalances xs | unconfirmedBalances xs | confirmedUnspents xs =>
      exact requireCount_decides .addresses 20 xs
    | _ => exact .nil ()
  | script q =>
    cases q with
    | confirmedUnspents xs => exact requireCount_decides .scripts 20 xs
    | _ => exact .nil ()
  | block q => cases q <;> exact .nil ()
  | network q =>
    cases q with
    | historicalRates first last => exact NetworkQuery.requireRange_decides first last
    | _ => exact .nil ()
  | token q => cases q <;> exact .nil ()
  | transaction q =>
    cases q with
    | details xs | statuses xs => exact requireCount_decides .transactions 20 xs
    | spentOutputs xs => exact requireCount_decides .utxos 20 xs
    | broadcast tx => exact TransactionQuery.requireText_decides tx
    | broadcastBatch txs _ => exact TransactionQuery.requireBatch_decides txs
    | _ => exact .nil ()

theorem Query.inquiry_chain (q : Query) : q.inquiry.chain = q.chain? := by
  cases q with
  | address q => cases q <;> rfl
  | script q => cases q <;> rfl
  | block q => cases q <;> rfl
  | network q => cases q <;> rfl
  | token q => cases q <;> rfl
  | transaction q => cases q <;> rfl

theorem Chain.require_decides (required configured : Chain) :
    Decides [Requirement.chain required configured] (required.require configured) :=
  Decides.single (p := configured = required) Iff.rfl ()

theorem Query.url_decides (q : Query) (c : Client ε) :
    Decides (q.requirements c.options.chain) (q.inquiry.url c) := by
  refine q.guard_decides.bind fun _ _ => ?_
  rw [q.inquiry_chain]
  cases q.chain? with
  | none => exact .nil _
  | some required => exact (required.require_decides c.options.chain).map _

theorem isHeaderValue_iff (value : String) : isHeaderValue value = true ↔ Carriable value := by
  simp [isHeaderValue, Carriable]

theorem header_decides (name value : String) :
    Decides [⟨Carriable value, .invalidHeader name⟩] (header name value) :=
  Decides.single (isHeaderValue_iff value).symm _

theorem Client.identity_decides (c : Client ε) :
    Decides (Requirement.headers c.options) c.identity := by
  have agent := header_decides "user-agent" c.options.userAgent
  refine agent.bind fun _ _ => ?_
  cases keyed : c.options.apiKey with
  | none =>
    show Met [_]
    simp [Met]
  | some key =>
    have same : (∀ k, some key = some k → Carriable k) ↔ isHeaderValue key = true := by
      simp [isHeaderValue_iff]
    exact (Decides.single same _).map _

theorem Query.handed_decides (q : Query) (c : Client ε) :
    Decides (q.requirements c.options.chain ++ Requirement.headers c.options) (q.handed c) := by
  refine (q.url_decides c).bind fun url asked => ?_
  obtain ⟨path, rfl⟩ : ∃ path, url = Route.root ++ path := by
    rw [Inquiry.url_ok asked]
    exact ⟨_, by rw [Route.address, String.append_assoc, String.append_assoc, String.append_assoc]⟩
  refine Decides.map (c.identity_decides.congr ?_) _
  exact fun e => Client.request_error_iff

/-! ## Plans and operations -/

/-- The requirements decide about a course: either something is asked for, or nothing happens but
that the first requirement that is not met is reported. -/
def Course.Gated (c : Course ε σ α) (rs : List Requirement) : Prop :=
  Met rs ∧ c.asked ≠ [] ∨ c.asked = [] ∧ ∃ e, FirstUnmet rs e ∧ c.answer = some (.error e)

theorem Query.course_gated (w : Wiring ε σ) (ctx : Context) (q : Query) (live : Live ε σ) :
    (q.course w ctx live).Gated
      (q.requirements live.client.options.chain ++ Requirement.headers live.client.options) := by
  have decided := q.handed_decides live.client
  rcases q.course_asked w ctx live with ⟨e, handed, h⟩ | ⟨url, request, reply, handed, asked⟩
  · rw [handed] at decided
    rw [h]
    exact Or.inr ⟨rfl, e, decided, rfl⟩
  · rw [handed] at decided
    exact Or.inl ⟨decided, by simp [asked]⟩

/-- A query whose requirements are met makes one request. -/
theorem Query.course_asks (w : Wiring ε σ) (ctx : Context) {q : Query} {live : Live ε σ}
    (arguments : Met (q.requirements live.client.options.chain))
    (headers : Met (Requirement.headers live.client.options)) :
    ∃ a, (q.course w ctx live).asked = [a] ∧ a.query = q ∧
      q.handed live.client = .ok (a.url, a.request) := by
  have decided := q.handed_decides live.client
  rcases q.course_asked w ctx live with ⟨e, handed, -⟩ | ⟨url, request, reply, handed, asked⟩
  · rw [handed] at decided
    exact absurd (met_append.mpr ⟨arguments, headers⟩) (FirstUnmet.not_met decided)
  · exact ⟨⟨q, url, request, reply⟩, asked, rfl, handed⟩

theorem Course.Gated.andThen {c : Course ε σ α} {rs : List Requirement} (h : c.Gated rs)
    (next : α → Live ε σ → Course ε σ β) : (c.andThen next).Gated rs := by
  rcases h with ⟨met, opens⟩ | ⟨idle, e, unmet, failed⟩
  · refine Or.inl ⟨met, ?_⟩
    unfold Course.andThen
    split <;> simp [opens]
  · refine Or.inr ?_
    unfold Course.andThen
    simp [failed, idle, unmet]

/-- Requirements that are met need not be mentioned. -/
theorem Course.Gated.drop {c : Course ε σ α} {rs ss : List Requirement} (met : Met rs)
    (h : c.Gated (rs ++ ss)) : c.Gated ss := by
  rcases h with ⟨all, opens⟩ | ⟨idle, e, unmet, failed⟩
  · exact Or.inl ⟨(met_append.mp all).2, opens⟩
  · exact Or.inr ⟨idle, e, unmet.drop met, failed⟩

namespace Plan

variable {w : Wiring ε σ} {ctx : Context} {live : Live ε σ}

theorem ask_gated (q : Query) : ((ask q).course w ctx live).Gated
    (q.requirements live.client.options.chain ++ Requirement.headers live.client.options) :=
  q.course_gated w ctx live

/-- A query whose own requirements are met depends on the headers only. -/
theorem ask_gated_of_met {q : Query} (met : Met (q.requirements live.client.options.chain)) :
    ((ask q).course w ctx live).Gated (Requirement.headers live.client.options) :=
  (ask_gated q).drop met

theorem andThen_gated {first : Plan α} {rs : List Requirement}
    (h : (first.course w ctx live).Gated rs) (next : α → Plan β) :
    ((first.andThen next).course w ctx live).Gated rs := h.andThen _

/-- The first piece of a list decides for all of them. -/
theorem inPieces_gated {size : Nat} (positive : 0 < size) {p : List α → Plan (List β)}
    {rs : List Requirement}
    (gated : ∀ piece, 1 ≤ piece.length → piece.length ≤ size →
      ((p piece).course w ctx live).Gated rs) (xs : List α) :
    ((inPieces size p xs).course w ctx live).Gated (⟨xs ≠ [], .missingRequest⟩ :: rs) := by
  unfold inPieces
  by_cases empty : xs = []
  · rw [empty, List.isEmpty_nil, if_pos rfl]
    refine Or.inr ⟨rfl, .missingRequest, ⟨[], ⟨_, _⟩, rs, rfl, by simp [Met], ?_, rfl⟩, rfl⟩
    exact fun there => there rfl
  · rw [if_neg (by simpa using empty)]
    have cut : pieces size xs = [] ++ xs.take size :: pieces size (xs.drop size) :=
      pieces_of_ne_nil positive empty
    obtain ⟨some_there, short, -⟩ := pieces_lengths positive cut
    have first := gated (xs.take size) some_there short
    have there : Met [⟨xs ≠ [], .missingRequest⟩] := by simpa [Met] using empty
    rw [cut, List.nil_append, each]
    rcases first.andThen _ with ⟨met, opens⟩ | ⟨idle, e, unmet, failed⟩
    · exact Or.inl ⟨met_append.mpr ⟨there, met⟩, opens⟩
    · exact Or.inr ⟨idle, e, unmet.behind there, failed⟩

end Plan

/-- A piece of a list is never refused for its length. -/
theorem Requirement.count_met {what : Bounded} {most : Nat} {piece : List α}
    (some_there : 1 ≤ piece.length) (short : piece.length ≤ most) :
    Met (Requirement.count what most piece) := by
  have there : piece ≠ [] := List.length_pos_iff.mp some_there
  simpa [Met, Requirement.count] using ⟨there, short⟩

theorem Operation.course_gated (w : Wiring ε σ) (ctx : Context) (op : Operation)
    (live : Live ε σ) :
    (op.course w ctx live).Gated (op.requirements live.client.options) := by
  cases op with
  | query q => exact Plan.andThen_gated (Plan.ask_gated q) _
  | balance a =>
    have free : Met ((Query.address (.confirmedBalance a)).requirements
        live.client.options.chain) := List.forall_mem_nil _
    exact Plan.andThen_gated (Plan.andThen_gated (Plan.ask_gated_of_met free) _) _
  | history a =>
    have free : Met ((Query.address (.confirmedHistory a)).requirements
        live.client.options.chain) := List.forall_mem_nil _
    exact Plan.andThen_gated (Plan.andThen_gated (Plan.ask_gated_of_met free) _) _
  | allBalances xs | allUnspents xs | allDetails xs =>
    refine Plan.andThen_gated (Plan.inPieces_gated (by decide) ?_ xs) _
    intro piece some_there short
    exact Plan.ask_gated_of_met (Requirement.count_met some_there short)

/-- An operation that is refused does nothing. -/
theorem Operation.call_refused {w : Wiring ε σ} {ctx : Context} {op : Operation}
    {live : Live ε σ} {e : Error} (unmet : FirstUnmet (op.requirements live.client.options) e) :
    (op.course w ctx live).asked = [] ∧ op.call w ctx live = some (.error e, live) := by
  rcases op.course_gated w ctx live with ⟨met, -⟩ | ⟨idle, e', unmet', failed⟩
  · exact absurd met unmet.not_met
  · have same : (op.course w ctx live).live = live := op.plan.course_idle w ctx live idle
    refine ⟨idle, ?_⟩
    rw [← op.course_ended, Course.ended, failed, same, unmet'.unique unmet]
    rfl

/-- An operation hands a request to the executor of its client exactly if all its requirements are
met, and the first request meets the world as it is. Otherwise it reports the first requirement that
is not met, and the client and the world stay as they are, whatever the executor would have done.
What is handed over is what the log of a watched wiring shows. -/
theorem Operation.entered_iff_met (w : Wiring ε σ) (ctx : Context) (op : Operation)
    (live : Live ε σ) :
    ((op.course w ctx live).asked ≠ [] ↔ Met (op.requirements live.client.options)) ∧
    (∀ a rest, (op.course w ctx live).asked = a :: rest →
      a.reply = (w.executor live.client.slot ctx a.request live.world).map (·.1)) ∧
    ((op.course w ctx live).asked = [] →
      ∃ e, FirstUnmet (op.requirements live.client.options) e ∧
        op.call w ctx live = some (.error e, live)) ∧
    ∀ seen, ∃ new, op.Logged w ctx live seen new := by
  have gated := op.course_gated w ctx live
  refine ⟨⟨fun opens => ?_, fun met => ?_⟩, fun a rest => op.plan.course_opens w ctx live, ?_,
    op.logged w ctx live⟩
  · rcases gated with ⟨met, -⟩ | ⟨idle, -⟩
    · exact met
    · exact absurd idle opens
  · rcases gated with ⟨-, opens⟩ | ⟨-, e, unmet, -⟩
    · exact opens
    · exact absurd met unmet.not_met
  · intro idle
    rcases gated with ⟨-, opens⟩ | ⟨-, e, unmet, failed⟩
    · exact absurd idle opens
    · refine ⟨e, unmet, ?_⟩
      rw [← op.course_ended, Course.ended, failed]
      exact congrArg (fun after => some (Except.error e, after))
        (op.plan.course_idle w ctx live idle)

end ExplorerClient
