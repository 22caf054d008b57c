import ExplorerClient.Proofs.Classified
import ExplorerClient.Proofs.Each
import ExplorerClient.Proofs.Payload

/-!
# What is found in two halves

The balance and the history of an address are found in two halves, one after the other: what is
confirmed, and what is not. The second half is asked for only if the first was found, and then both
are put together.

Results:
* `Twofold.half_fate`: all that can become of one half.
* `Twofold.joined`: what is asked for both halves, and what comes of them.
* `HistoryPage.merge_honest_iff`: when a history says that it is not whole if one of its pages does.
* `Call.history_heeds_iff`: what the history of an address keeps of what its pages say.
-/

namespace ExplorerClient

open Json

variable {ε σ α : Type}

/-! ## Halves -/

/-- What is found in two halves. -/
inductive Twofold where
  | balance
  | history

/-- A half, named by what is in it. -/
inductive Half where
  | confirmed
  | unconfirmed

/-- How a route names the half. -/
def Half.word : Half → String
  | .confirmed => "confirmed"
  | .unconfirmed => "unconfirmed"

/-- The first number is that of the confirmed half, and the second that of the other one. -/
def Balance.Joins (confirmed unconfirmed whole : Balance) : Prop :=
  whole.confirmed = confirmed.confirmed ∧ whole.unconfirmed = unconfirmed.unconfirmed

/-- All entries of the confirmed half come before all those of the other one. The address is that of
the confirmed half, unless it is empty. -/
structure HistoryPage.Joins (confirmed unconfirmed whole : HistoryPage) : Prop where
  result : whole.result = confirmed.result ++ unconfirmed.result
  named : confirmed.address ≠ "" → whole.address = confirmed.address
  unnamed : confirmed.address = "" → whole.address = unconfirmed.address

namespace Twofold

/-- How a route names it. -/
def word : Twofold → String
  | .balance => "balance"
  | .history => "history"

/-- What is found for each half, and as a whole. -/
def Found : Twofold → Type
  | .balance => Balance
  | .history => HistoryPage

/-- The query for a half. -/
def query : Twofold → Half → String → Query
  | .balance, .confirmed, a => .address (.confirmedBalance a)
  | .balance, .unconfirmed, a => .address (.unconfirmedBalance a)
  | .history, .confirmed, a => .address (.confirmedHistory a)
  | .history, .unconfirmed, a => .address (.unconfirmedHistory a)

/-- The route to a half. -/
def route (t : Twofold) (h : Half) (address : String) : Route :=
  ⟨["address", .text address, .fixed h.word, .fixed t.word], []⟩

/-- The method for one half. -/
def half (w : Wiring ε σ) (ctx : Context) : (t : Twofold) → Half → String → Call ε σ t.Found
  | .balance, .confirmed, a => (AddressQuery.confirmedBalance a).call w ctx
  | .balance, .unconfirmed, a => (AddressQuery.unconfirmedBalance a).call w ctx
  | .history, .confirmed, a => (AddressQuery.confirmedHistory a).call w ctx
  | .history, .unconfirmed, a => (AddressQuery.unconfirmedHistory a).call w ctx

/-- The operation for both halves. -/
def operation : Twofold → String → Operation
  | .balance => .balance
  | .history => .history

/-- The method for both halves. -/
def call (w : Wiring ε σ) (ctx : Context) : (t : Twofold) → String → Call ε σ t.Found
  | .balance => Call.balance w ctx
  | .history => Call.history w ctx

/-- Both halves put together. -/
def merge : (t : Twofold) → t.Found → t.Found → t.Found
  | .balance => Balance.merge
  | .history => HistoryPage.merge

/-- Something is put together from two halves. -/
def Joins : (t : Twofold) → t.Found → t.Found → t.Found → Prop
  | .balance => Balance.Joins
  | .history => HistoryPage.Joins

/-- The plan of the method for one half. -/
def ask : (t : Twofold) → Half → String → Plan t.Found
  | .balance, .confirmed, a => (.ask (.address (.confirmedBalance a)) : Plan Balance)
  | .balance, .unconfirmed, a => (.ask (.address (.unconfirmedBalance a)) : Plan Balance)
  | .history, .confirmed, a => (.ask (.address (.confirmedHistory a)) : Plan HistoryPage)
  | .history, .unconfirmed, a => (.ask (.address (.unconfirmedHistory a)) : Plan HistoryPage)

/-- The plan of the method for both halves. -/
def plan (t : Twofold) (address : String) : Plan t.Found :=
  .andThen (t.ask .confirmed address) fun confirmed =>
    (t.ask .unconfirmed address).map (t.merge confirmed)

variable {w : Wiring ε σ} {ctx : Context} {live : Live ε σ}

theorem ask_call (t : Twofold) (h : Half) (address : String) :
    (t.ask h address).call w ctx = t.half w ctx h address := by
  cases t <;> cases h <;> rfl

theorem call_eq (t : Twofold) (address : String) :
    t.call w ctx address = (t.half w ctx .confirmed address).andThen fun confirmed =>
      (t.half w ctx .unconfirmed address).map (t.merge confirmed) := by
  cases t <;> rfl

theorem plan_call (t : Twofold) (address : String) :
    (t.plan address).call w ctx = t.call w ctx address := by
  simp only [plan, Plan.call, Plan.call_map, ask_call, call_eq]

theorem plan_course (t : Twofold) (address : String) (live : Live ε σ) :
    (t.plan address).course w ctx live = ((t.ask .confirmed address).course w ctx live).andThen
      fun confirmed live =>
        ((t.ask .unconfirmed address).course w ctx live).map (t.merge confirmed) := by
  simp only [plan, Plan.course, Plan.map_course]

theorem operation_plan (t : Twofold) (address : String) :
    ∃ shown, (t.operation address).plan = (t.plan address).map shown := by
  cases t <;> exact ⟨_, rfl⟩

/-- The operation asks what the method for both halves asks. -/
theorem operation_asked (t : Twofold) (address : String) :
    ((t.operation address).course w ctx live).asked =
      ((t.plan address).course w ctx live).asked := by
  obtain ⟨shown, same⟩ := t.operation_plan address
  rw [Operation.course, same, Plan.map_course]
  rfl

theorem joins_merge (t : Twofold) (confirmed unconfirmed : t.Found) :
    t.Joins confirmed unconfirmed (t.merge confirmed unconfirmed) := by
  cases t with
  | balance => exact ⟨rfl, rfl⟩
  | history => exact ⟨rfl, fun named => if_neg named, fun unnamed => if_pos unnamed⟩

/-! ## One half -/

theorem query_inquiry (t : Twofold) (h : Half) (address : String) :
    (t.query h address).inquiry = .get (t.route h address).path := by
  cases t <;> cases h <;> rfl

/-- Nothing is required for a half. -/
theorem query_requirements (t : Twofold) (h : Half) (address : String) (chain : Chain) :
    Met ((t.query h address).requirements chain) := by
  cases t <;> cases h <;> exact List.forall_mem_nil _

theorem ask_asked (t : Twofold) (h : Half) (address : String) :
    ((t.ask h address).course w ctx live).asked =
      ((t.query h address).course w ctx live).asked := by
  cases t <;> cases h <;> rfl

theorem ask_gated (t : Twofold) (h : Half) (address : String) :
    ((t.ask h address).course w ctx live).Gated (Requirement.headers live.client.options) := by
  have free := t.query_requirements h address live.client.options.chain
  cases t <;> cases h <;> exact Plan.ask_gated_of_met free

end Twofold

/-- A request for a half of something: where it goes, and what the executor of the client answers to
it in the world as it is. -/
structure Issued (w : Wiring ε σ) (ctx : Context) (live : Live ε σ) (t : Twofold) (h : Half)
    (address : String) (a : Asked) : Prop where
  query : a.query = t.query h address
  url : a.url = Route.address live.client.options.chain live.client.options.network
    (t.route h address).text
  sends : a.request.method = .get ∧ a.request.body = none
  handed : a.query.handed live.client = .ok (a.url, a.request)
  reply : a.reply = (w.executor live.client.slot ctx a.request live.world).map (·.1)

namespace Twofold

variable {w : Wiring ε σ} {ctx : Context} {live : Live ε σ}

/-- Exactly one request is made for a half. -/
theorem ask_issues (t : Twofold) (h : Half) (address : String)
    (headers : Met (Requirement.headers live.client.options)) :
    ∃ a, ((t.ask h address).course w ctx live).asked = [a] ∧
      Issued w ctx live t h address a := by
  obtain ⟨a, asked, query, handed⟩ := Query.course_asks w ctx
    (t.query_requirements h address live.client.options.chain) headers
  rw [← t.ask_asked] at asked
  obtain ⟨there, made⟩ := Query.handed_ok handed
  obtain ⟨method, -, body⟩ := Client.request_ok made
  have url := Inquiry.url_ok there
  rw [t.query_inquiry] at method body url
  refine ⟨a, asked, query, url, ⟨method, body⟩, ?_, ?_⟩
  · rw [query]
    exact handed
  · exact Plan.course_opens w ctx _ live asked

end Twofold

/-- What is recorded after a plan that asks one thing tells of it. -/
theorem Plan.call_recorded {w : Wiring ε σ} {ctx : Context} {live after : Live ε σ} {p : Plan α}
    {answer : Except Error α} {a : Asked} (asked : (p.course w ctx live).asked = [a])
    (called : p.call w ctx live = some (answer, after)) : after.client.last.Tells a := by
  rw [← p.course_ended] at called
  obtain ⟨result, answered, same⟩ := Option.map_eq_some_iff.mp called
  cases same
  have last := p.last_course w ctx live (by rw [answered]; rfl)
  rw [asked] at last
  rw [last]
  exact Asked.last_tells (p.asked_handed w ctx live a (by simp [asked]))

/-- A half has been asked for, and there is an answer. Nothing of the client is changed but the
record of the last request, which tells of this one. -/
structure Half.Answered (w : Wiring ε σ) (ctx : Context) (live : Live ε σ) (t : Twofold) (h : Half)
    (address : String) (a : Asked) (answer : Except Error t.Found) (after : Live ε σ) : Prop where
  issued : Issued w ctx live t h address a
  called : t.half w ctx h address live = some (answer, after)
  kept : after.client = { live.client with last := after.client.last }
  recorded : after.client.last.Tells a

/-- A half has been asked for, and this never comes to an end. -/
structure Half.Endless (w : Wiring ε σ) (ctx : Context) (live : Live ε σ) (t : Twofold) (h : Half)
    (address : String) (a : Asked) : Prop where
  issued : Issued w ctx live t h address a
  called : t.half w ctx h address live = none

/-- What can become of a half: it is refused for a header, or it is asked for. -/
inductive Half.Fate (w : Wiring ε σ) (ctx : Context) (live : Live ε σ) (t : Twofold) (h : Half)
    (address : String) (c : Course ε σ t.Found) : Prop where
  | refused (e : Error) (unmet : FirstUnmet (Requirement.headers live.client.options) e)
    (called : t.half w ctx h address live = some (.error e, live))
    (came : c = ⟨[], some (.error e), live⟩)
  | endless (a : Asked) (endless : h.Endless w ctx live t address a) (asked : c.asked = [a])
    (hangs : c.answer = none)
  | answered (a : Asked) (answer : Except Error t.Found) (after : Live ε σ)
    (headers : Met (Requirement.headers live.client.options))
    (answered : h.Answered w ctx live t address a answer after)
    (came : c = ⟨[a], some answer, after⟩)

theorem Twofold.half_fate (w : Wiring ε σ) (ctx : Context) (live : Live ε σ) (t : Twofold)
    (h : Half) (address : String) :
    h.Fate w ctx live t address ((t.ask h address).course w ctx live) := by
  have called := (t.ask h address).course_ended w ctx live
  rw [t.ask_call] at called
  rcases t.ask_gated h address with ⟨headers, -⟩ | ⟨idle, e, unmet, failed⟩
  · obtain ⟨a, asked, issued⟩ := t.ask_issues h address headers
    have kept := (t.ask h address).course_client w ctx live
    have recorded : ∀ answer after, t.half w ctx h address live = some (answer, after) →
        after.client.last.Tells a := by
      intro answer after ended
      rw [← t.ask_call] at ended
      exact Plan.call_recorded asked ended
    cases course : (t.ask h address).course w ctx live with
    | mk asked' answer after =>
      rw [course] at asked called kept
      cases answer with
      | none => exact .endless a ⟨issued, called.symm⟩ asked rfl
      | some answer =>
        cases asked
        exact .answered a answer after headers
          ⟨issued, called.symm, kept, recorded answer after called.symm⟩ rfl
  · have same := (t.ask h address).course_idle w ctx live idle
    cases course : (t.ask h address).course w ctx live with
    | mk asked answer after =>
      rw [course] at idle failed same called
      cases idle
      cases failed
      cases same
      exact .refused e unmet called.symm rfl

/-! ## Both halves -/

/-- What is asked for both halves of something, and what comes of them. -/
inductive Twofold.Joined (w : Wiring ε σ) (ctx : Context) (live : Live ε σ) (t : Twofold)
    (address : String) : List Asked → Option (Except Error t.Found × Live ε σ) → Prop where
  /-- Nothing can be asked, for a header. -/
  | refused (e : Error) (unmet : FirstUnmet (Requirement.headers live.client.options) e)
    (called : t.half w ctx .confirmed address live = some (.error e, live)) :
    Joined w ctx live t address [] (some (.error e, live))
  /-- The first half never comes to an end. -/
  | endless (a : Asked) (first : Half.confirmed.Endless w ctx live t address a) :
    Joined w ctx live t address [a] none
  /-- The first half fails. -/
  | failed (a : Asked) (e : Error) (after : Live ε σ)
    (first : Half.confirmed.Answered w ctx live t address a (.error e) after) :
    Joined w ctx live t address [a] (some (.error e, after))
  /-- The first half is found, and the second never comes to an end. -/
  | endlessBehind (a b : Asked) (found : t.Found) (middle : Live ε σ)
    (first : Half.confirmed.Answered w ctx live t address a (.ok found) middle)
    (second : Half.unconfirmed.Endless w ctx middle t address b) :
    Joined w ctx live t address [a, b] none
  /-- The first half is found, and the second fails. -/
  | failedBehind (a b : Asked) (found : t.Found) (middle : Live ε σ) (e : Error) (after : Live ε σ)
    (first : Half.confirmed.Answered w ctx live t address a (.ok found) middle)
    (second : Half.unconfirmed.Answered w ctx middle t address b (.error e) after) :
    Joined w ctx live t address [a, b] (some (.error e, after))
  /-- Both halves are found, and put together. -/
  | found (a b : Asked) (found found' whole : t.Found) (middle after : Live ε σ)
    (first : Half.confirmed.Answered w ctx live t address a (.ok found) middle)
    (second : Half.unconfirmed.Answered w ctx middle t address b (.ok found') after)
    (joins : t.Joins found found' whole) :
    Joined w ctx live t address [a, b] (some (.ok whole, after))

theorem Twofold.plan_joined (w : Wiring ε σ) (ctx : Context) (live : Live ε σ) (t : Twofold)
    (address : String) :
    Joined w ctx live t address ((t.plan address).course w ctx live).asked
      ((t.plan address).course w ctx live).ended := by
  rw [plan_course]
  cases t.half_fate w ctx live .confirmed address with
  | refused e unmet called came =>
    rw [came]
    exact .refused e unmet called
  | endless a first asked hangs =>
    simp only [Course.andThen, Course.ended, hangs, asked]
    exact .endless a first
  | answered a answer middle headers first came =>
    rw [came]
    cases answer with
    | error e => exact .failed a e middle first
    | ok found =>
      cases t.half_fate w ctx middle .unconfirmed address with
      | refused e unmet called came' =>
        -- the client has the headers that it had when the first half was asked for
        rw [first.kept] at unmet
        exact absurd headers unmet.not_met
      | endless b second asked' hangs' =>
        simp only [Course.andThen, Course.map, Course.ended, hangs', asked']
        exact .endlessBehind a b found middle first second
      | answered b answer' after _ second came' =>
        simp only [Course.andThen, came']
        cases answer' with
        | error e => exact .failedBehind a b found middle e after first second
        | ok found' =>
          exact .found a b found found' _ middle after first second (t.joins_merge found found')

/-- What the methods for both halves of a balance and of a history ask and answer, whatever the
executor of the client does. The confirmed half is asked for first, and the other one only once the
first has been found. If a half fails, its error is all that is answered. If both are found, the
answer is put together from them. What is recorded tells of the request that was made last. -/
theorem Twofold.joined (w : Wiring ε σ) (ctx : Context) (live : Live ε σ) (t : Twofold)
    (address : String) :
    Joined w ctx live t address ((t.operation address).course w ctx live).asked
      (t.call w ctx address live) := by
  rw [t.operation_asked, ← t.plan_call, ← Plan.course_ended]
  exact t.plan_joined w ctx live address

/-! ## What a history keeps of its pages -/

namespace HistoryPage

/-- The page says that it is whole: nothing went wrong, and no page comes after it. -/
def Whole (p : HistoryPage) : Prop := p.error = "" ∧ p.nextPageToken = none

/-- If the page says that it is whole, it holds all of these entries. -/
def Honest (p : HistoryPage) (entries : List HistoryEntry) : Prop := p.Whole → p.result = entries

/-- Two pages put together are honest whenever both of them are, exactly if the first never says
that it is whole where the second does not. -/
theorem merge_honest_iff (x y : HistoryPage) :
    (∀ entries entries', x.Honest entries → y.Honest entries' →
      (x.merge y).Honest (entries ++ entries')) ↔ (x.Whole → y.Whole) := by
  constructor
  · intro honest whole
    by_contra cut
    -- an entry that the second page leaves out, as it may
    have left_out : x.result ++ y.result = x.result ++ {} :: y.result :=
      honest x.result ({} :: y.result) (fun _ => rfl) (fun whole' => absurd whole' cut) whole
    exact List.cons_ne_self _ _ (List.append_cancel_left left_out).symm
  · intro both entries entries' honest honest' whole
    show x.result ++ y.result = entries ++ entries'
    rw [honest whole, honest' (both whole)]

end HistoryPage

/-- The history of two pages is both put together. -/
theorem Call.history_merge {w : Wiring ε σ} {ctx : Context} {address : String}
    {live middle after : Live ε σ} {x y : HistoryPage}
    (first : (AddressQuery.confirmedHistory address).call w ctx live = some (.ok x, middle))
    (second : (AddressQuery.unconfirmedHistory address).call w ctx middle = some (.ok y, after)) :
    Call.history w ctx address live = some (.ok (x.merge y), after) := by
  rw [Call.history, Call.andThen, first]
  simp only [Call.map, second]
  rfl

/-- The history of an address carries the error and the token of the confirmed page, whatever the
other page says of itself. So it carries an error whenever one of the pages does, exactly if the
other page has none unless the confirmed page has one too; and so it is with tokens. A history that
says that it is whole holds the entries of both pages, where each page that says so holds all of its
own, exactly if the confirmed page never says so where the other one does not. -/
theorem Call.history_heeds_iff (w : Wiring ε σ) (ctx : Context) (address : String)
    (live middle after : Live ε σ) (x y : HistoryPage)
    (first : (AddressQuery.confirmedHistory address).call w ctx live = some (.ok x, middle))
    (second : (AddressQuery.unconfirmedHistory address).call w ctx middle = some (.ok y, after)) :
    ∃ m, Call.history w ctx address live = some (.ok m, after) ∧
      m.error = x.error ∧ m.nextPageToken = x.nextPageToken ∧
      ((x.error ≠ "" ∨ y.error ≠ "" → m.error ≠ "") ↔ (y.error ≠ "" → x.error ≠ "")) ∧
      ((x.nextPageToken ≠ none ∨ y.nextPageToken ≠ none → m.nextPageToken ≠ none) ↔
        (y.nextPageToken ≠ none → x.nextPageToken ≠ none)) ∧
      ((∀ entries entries', x.Honest entries → y.Honest entries' →
        m.Honest (entries ++ entries')) ↔ (x.Whole → y.Whole)) := by
  have heeds : ∀ mine other : Prop, (mine ∨ other → mine) ↔ (other → mine) := fun mine other =>
    ⟨fun both there => both (Or.inr there), fun there both => both.elim id there⟩
  exact ⟨x.merge y, Call.history_merge first second, rfl, rfl, heeds _ _, heeds _ _,
    x.merge_honest_iff y⟩

/-- The response that carries a page. -/
def HistoryPage.response (p : HistoryPage) : Response :=
  ⟨200, (encode (Record.codec HistoryPage) p).toUTF8, .complete⟩

/-- A server that answers with the pages that are left, one after the other. -/
def reciting : Wiring Unit (List HistoryPage) where
  supplied _ := fun _ _ w =>
    match w.state with
    | [] => some (.error (.transport none), w)
    | p :: rest => some (.ok p.response, { w with state := rest })
  managed _ := .refuse
  random _ := 0
  connect _ := .ok ()

/-- A client of it. -/
def listener (last : LastRequest) (pages : List HistoryPage) : Live Unit (List HistoryPage) :=
  ⟨⟨{}, .standard, {}, {}, .supplied (), last⟩, .start, pages⟩

namespace HistoryPage

theorem response_body_ne_empty (p : HistoryPage) : p.response.body.size ≠ 0 := by
  intro empty
  have read : decodeObject (Record.codec HistoryPage) Record.blank p.response.body = .ok p :=
    HistoryPage.law.restored.answer p
  rw [ByteArray.size_eq_zero_iff.mp empty] at read
  cases read

/-- A page is read from the response that carries it. -/
theorem response_read (p : HistoryPage) :
    (Reply.resource .address (decodeObject (Record.codec HistoryPage) Record.blank)).interpret
      (p.response.outcome p.response.body) = .ok p := by
  have accepted : Success 200 := ⟨by decide, by decide⟩
  rw [Reply.interpret_resource_there accepted p.response_body_ne_empty]
  exact congrArg (Except.mapError Error.decode) (HistoryPage.law.restored.answer p)

end HistoryPage

/-- The page that comes next is the half that is asked for. -/
theorem half_recited (h : Half) (address : String) (last : LastRequest) (p : HistoryPage)
    (rest : List HistoryPage) :
    ∃ last', Twofold.history.half reciting ⟨⟨[0]⟩, none⟩ h address (listener last (p :: rest)) =
      some (.ok p, listener last' rest) := by
  have headers : Met (Requirement.headers (listener last (p :: rest)).client.options) :=
    Requirement.headers_standard
  obtain ⟨a, -, -, handed⟩ := Query.course_asks reciting ⟨⟨[0]⟩, none⟩
    (Twofold.history.query_requirements h address _) headers
  have answered : reciting.executor (listener last (p :: rest)).client.slot ⟨⟨[0]⟩, none⟩ a.request
      (listener last (p :: rest)).world = some (.ok p.response, ⟨.start, rest⟩) := rfl
  have ended := (Twofold.history.query h address).course_ended reciting ⟨⟨[0]⟩, none⟩
    (listener last (p :: rest))
  rw [Query.course_read handed answered rfl] at ended
  cases h <;> exact ⟨_, ended.symm.trans
    (congrArg (fun answer => some (answer, listener _ rest)) p.response_read)⟩

/-- A page without entries that says that something went wrong, and that there is more. -/
def HistoryPage.cut : HistoryPage := { error := "timeout", nextPageToken := some "2" }

/-- What a cut page says is kept if it is the first. -/
theorem Call.history_heeds_iff_cut :
    ∃ m after, Call.history reciting ⟨⟨[0]⟩, none⟩ "1A" (listener {} [.cut, {}]) =
      some (.ok m, after) ∧ m.error ≠ "" ∧ m.nextPageToken ≠ none := by
  obtain ⟨last, first⟩ := half_recited .confirmed "1A" {} .cut [{}]
  obtain ⟨last', second⟩ := half_recited .unconfirmed "1A" last {} []
  obtain ⟨m, called, -, -, error, token, -⟩ :=
    Call.history_heeds_iff reciting ⟨⟨[0]⟩, none⟩ "1A" _ _ _ .cut {} first second
  refine ⟨m, _, called, ?_, ?_⟩
  · exact error.mpr (fun _ => by decide) (Or.inl (by decide))
  · exact token.mpr (fun _ => by decide) (Or.inl (by decide))

/-- What a cut page says is lost if it is the second. -/
theorem Call.history_deaf :
    ∃ m middle after,
      (AddressQuery.confirmedHistory "1A").call reciting ⟨⟨[0]⟩, none⟩ (listener {} [{}, .cut]) =
        some (.ok ({} : HistoryPage), middle) ∧
      (AddressQuery.unconfirmedHistory "1A").call reciting ⟨⟨[0]⟩, none⟩ middle =
        some (.ok HistoryPage.cut, after) ∧
      HistoryPage.cut.error ≠ "" ∧ HistoryPage.cut.nextPageToken ≠ none ∧
      Call.history reciting ⟨⟨[0]⟩, none⟩ "1A" (listener {} [{}, .cut]) = some (.ok m, after) ∧
      m.error = "" ∧ m.nextPageToken = none := by
  obtain ⟨last, first⟩ := half_recited .confirmed "1A" {} {} [.cut]
  obtain ⟨last', second⟩ := half_recited .unconfirmed "1A" last .cut []
  exact ⟨_, _, _, first, second, by decide, by decide, Call.history_merge first second, rfl, rfl⟩

end ExplorerClient
