import ExplorerClient.Proofs.Course
import ExplorerClient.Proofs.Waiting

/-!
# What a response means to a query

Once a response is there and its body has been read, its status and its body decide what a query
answers. Queries fall into three groups. Most tell of a resource, which a status of 404 or an empty
body says is missing. Broadcasts report every refusal as a failed broadcast. The line that tells
whether the service is up is not about anything that could be missing.

Results:
* `bodyStart_isStart`: what an error carries of a body.
* `Reply.interpret_classified`: what each way of reading an answer makes of a response.
* `Query.reply_concern`: which queries are in which group.
* `Query.response_classified`: what a query answers to any response.
-/

namespace ExplorerClient

variable {ε σ α : Type}

/-! ## What is to be told apart -/

/-- What a query is about. -/
inductive Concern where
  | resource (resource : Resource)
  | broadcast
  | health

/-- The resource that a query about blocks tells of. -/
def BlockQuery.resource : BlockQuery → Resource
  | .byHash _ | .byHeight _ | .page _ _ | .txids _ => .block
  | .headerByHash _ | .headers => .headers
  | .statsByHash _ | .statsByHeight _ | .minerStats _ => .stats

/-- What a query about the network as a whole is about. -/
def NetworkQuery.concern : NetworkQuery → Concern
  | .health => .health
  | .chainInfo | .circulatingSupply => .resource .chainInfo
  | .chainTips => .resource .chainTips
  | .peers => .resource .peerInfo
  | .mempoolInfo | .mempoolTransactions => .resource .mempoolInfo
  | .exchangeRate | .historicalRates _ _ => .resource .exchangeRate

/-- What a query is about. -/
def Query.concern : Query → Concern
  | .address _ => .resource .address
  | .script _ => .resource .script
  | .block query => .resource query.resource
  | .network query => query.concern
  | .token _ => .resource .token
  | .transaction (.broadcast _) | .transaction (.broadcastBatch _ _) => .broadcast
  | .transaction _ => .resource .transaction

/-- Is the status one of success? -/
def Success (status : Nat) : Prop := 200 ≤ status ∧ status < 300

/-- The kinds that an error is known by are exactly the given ones. -/
def Error.Kinds (e : Error) (kinds : List ErrorKind) : Prop := ∀ k, e.is k = true ↔ k ∈ kinds

theorem Success.ne_absent {status : Nat} (h : Success status) : status ≠ 404 := by
  have := h.2
  omega

/-- Is the text the start of what a body says between blanks: two hundred characters, or all if
there are fewer? -/
def IsStart (bytes : ByteArray) (text : String) : Prop :=
  ∃ rest, (Text.trim (Text.ofBytes bytes)).toList = text.toList ++ rest ∧
    text.length ≤ 200 ∧ (text.length < 200 → rest = [])

/-- What an answer says about a response that refuses the request: exactly some kinds, and its
status. -/
def Refused (status : Nat) (kinds : List ErrorKind) (answer : Except Error α) : Prop :=
  ∃ e, answer = .error e ∧ e.Kinds kinds ∧ e.status = some status

/-- Refusals are carried along with their status and the start of their text. -/
def Carried (status : Nat) (bytes : ByteArray) (answer : Except Error α) : Prop :=
  ∀ e, answer = .error e →
    (∀ s text, .requestFailed s text ∈ e.chain → s = status ∧ IsStart bytes text) ∧
    ∀ text source, .broadcastFailed text source ∈ e.chain → IsStart bytes text

/-- The answer of a query that tells of a resource. -/
structure TellsResource (r : Resource) (status : Nat) (bytes : ByteArray)
    (answer : Except Error α) : Prop where
  missing : (∃ e, answer = .error e ∧ e.is (.notFound r) = true) ↔
    status = 404 ∨ Success status ∧ bytes.size = 0
  absent : status = 404 → Refused 404 [.notFound r, .requestFailed] answer
  empty : Success status → bytes.size = 0 →
    ∃ e, answer = .error e ∧ e.Kinds [.notFound r] ∧ e.status = none
  refused : ¬ Success status → status ≠ 404 → Refused status [.requestFailed] answer
  understood : Success status → bytes.size ≠ 0 →
    (∃ value, answer = .ok value) ∨ ∃ fault, answer = .error (.decode fault)
  carried : Carried status bytes answer

/-- The answer of a query that is not about anything that could be missing, with the kinds that its
refusals are known by. -/
structure TellsOutcome (kinds : List ErrorKind) (status : Nat) (bytes : ByteArray)
    (answer : Except Error α) : Prop where
  refused : ¬ Success status → Refused status kinds answer
  understood : Success status → ∃ value, answer = .ok value
  carried : Carried status bytes answer

/-- What the answer to a query has to be, given the status and the body of the response. -/
def Classified : Concern → Nat → ByteArray → Except Error α → Prop
  | .resource r => TellsResource r
  | .broadcast => TellsOutcome [.broadcastFailed, .requestFailed]
  | .health => TellsOutcome [.requestFailed]

/-! ## Errors and their kinds -/

namespace Error

theorem kinds_iff {e : Error} {kinds : List ErrorKind} :
    e.Kinds kinds ↔ ∀ k, k ∈ e.chain.map kind ↔ k ∈ kinds := by
  simp only [Kinds, is_iff_mem_chain, List.mem_map]

theorem kinds_chain (e : Error) : e.Kinds (e.chain.map kind) := kinds_iff.mpr fun _ => Iff.rfl

end Error

theorem Response.isSuccess_iff (r : Response) : r.isSuccess = true ↔ Success r.status := by
  simp [isSuccess, Success]

theorem bodyStart_isStart (bytes : ByteArray) : IsStart bytes (bodyStart bytes) := by
  let said := (Text.trim (Text.ofBytes bytes)).toList
  have start : (bodyStart bytes).toList = said.take 200 := String.toList_ofList
  have size : (bodyStart bytes).length = min 200 said.length := by
    rw [← String.length_toList, start, List.length_take]
  refine ⟨said.drop 200, ?_, ?_, ?_⟩
  · rw [start, List.take_append_drop]
  · omega
  · intro short
    exact List.drop_eq_nil_of_le (by omega)

/-! ## Ways of reading an answer -/

section

variable {r : Resource} {response : Response} {bytes : ByteArray}

theorem carried_value (status : Nat) (bytes : ByteArray) (value : α) :
    Carried status bytes (.ok value : Except Error α) := by
  intro e h
  cases h

theorem carried_of_chain {status : Nat} {e : Error}
    (refusals : ∀ s text, .requestFailed s text ∈ e.chain → s = status ∧ text = bodyStart bytes)
    (broadcasts : ∀ text source, .broadcastFailed text source ∈ e.chain → text = bodyStart bytes) :
    Carried status bytes (.error e : Except Error α) := by
  intro e' h
  cases h
  refine ⟨fun s text carried => ?_, fun text source carried => ?_⟩
  · obtain ⟨same, rfl⟩ := refusals s text carried
    exact ⟨same, bodyStart_isStart bytes⟩
  · rw [broadcasts text source carried]
    exact bodyStart_isStart bytes

/-- The refusal that a response without success stands for. -/
def Response.refusal (response : Response) (bytes : ByteArray) : Error :=
  .requestFailed response.status (bodyStart bytes)

theorem Response.outcome_refused (refused : ¬ Success response.status) (bytes : ByteArray) :
    response.outcome bytes = .error (response.refusal bytes) :=
  outcome_failure (by simpa [← response.isSuccess_iff] using refused) bytes

theorem Response.outcome_accepted (accepted : Success response.status) (bytes : ByteArray) :
    response.outcome bytes = .ok bytes :=
  outcome_success (response.isSuccess_iff.mpr accepted) bytes

theorem Response.refusal_refused (response : Response) (bytes : ByteArray) :
    Refused response.status [.requestFailed] (.error (response.refusal bytes) : Except Error α) :=
  ⟨_, rfl, Error.kinds_chain _, rfl⟩

theorem Response.refusal_carried (response : Response) (bytes : ByteArray) :
    Carried response.status bytes (.error (response.refusal bytes) : Except Error α) := by
  refine carried_of_chain ?_ ?_
  · intro s text carried
    obtain ⟨rfl, rfl⟩ : s = response.status ∧ text = bodyStart bytes := by
      simpa [refusal, Error.chain] using carried
    exact ⟨rfl, rfl⟩
  · intro text source carried
    simp [refusal, Error.chain] at carried

namespace Reply

/-- What an answer that is read in a way is about. -/
def concern : Reply α → Concern
  | .resource r _ => .resource r
  | .broadcast _ => .broadcast
  | .plain _ => .health

theorem interpret_resource_refused {decode : ByteArray → Except Json.Fault α}
    (refused : ¬ Success response.status) :
    (Reply.resource r decode).interpret (response.outcome bytes) =
      .error (onMissing r (response.refusal bytes)) := by
  rw [response.outcome_refused refused]
  rfl

theorem interpret_resource_empty {decode : ByteArray → Except Json.Fault α}
    (accepted : Success response.status) (empty : bytes.size = 0) :
    (Reply.resource r decode).interpret (response.outcome bytes) = .error (.notFound r none) := by
  have none_there : present r bytes = .error (.notFound r none) := if_pos (beq_iff_eq.mpr empty)
  rw [response.outcome_accepted accepted]
  show (present r bytes >>= _) = _
  rw [none_there]
  rfl

theorem interpret_resource_there {decode : ByteArray → Except Json.Fault α}
    (accepted : Success response.status) (there : bytes.size ≠ 0) :
    (Reply.resource r decode).interpret (response.outcome bytes) =
      (decode bytes).mapError .decode := by
  have all_there : present r bytes = .ok bytes := if_neg fun h => there (beq_iff_eq.mp h)
  rw [response.outcome_accepted accepted]
  show (present r bytes >>= _) = _
  rw [all_there]
  rfl

/-- A refusal with another status than 404 stays as it is. -/
theorem onMissing_refusal (other : response.status ≠ 404) :
    onMissing r (response.refusal bytes) = response.refusal bytes :=
  onMissing_other r other _

/-- A refusal with the status 404 says that the resource is missing. -/
theorem onMissing_missing (missing : response.status = 404) :
    onMissing r (response.refusal bytes) = .notFound r (some (response.refusal bytes)) := by
  rw [Response.refusal, missing, onMissing_404]

theorem tellsResource_absent (absent : response.status = 404) :
    TellsResource (α := α) r response.status bytes
      (.error (onMissing r (response.refusal bytes))) := by
  have failed : ¬ Success response.status := fun success => by
    have := success.2
    omega
  have kinds : Error.Kinds (.notFound r (some (response.refusal bytes)))
      [.notFound r, .requestFailed] := Error.kinds_chain _
  rw [onMissing_missing absent]
  refine ⟨?_, ?_, ?_, ?_, ?_, ?_⟩
  · exact ⟨fun _ => Or.inl absent, fun _ => ⟨_, rfl, (kinds _).mpr (by simp)⟩⟩
  · exact fun _ => ⟨_, rfl, kinds, congrArg some absent⟩
  · exact fun success => absurd success failed
  · exact fun _ other => absurd absent other
  · exact fun success => absurd success failed
  · exact carried_of_chain (by simp [Error.chain, Response.refusal])
      (by simp [Error.chain, Response.refusal])

theorem tellsResource_refused (failed : ¬ Success response.status)
    (other : response.status ≠ 404) :
    TellsResource (α := α) r response.status bytes
      (.error (onMissing r (response.refusal bytes))) := by
  rw [onMissing_refusal other]
  refine ⟨⟨?_, ?_⟩, ?_, ?_, ?_, ?_, ?_⟩
  · rintro ⟨e, same, missing⟩
    cases same
    simp [Response.refusal, Error.is, Error.kind] at missing
  · rintro (absent | ⟨success, -⟩)
    · exact absurd absent other
    · exact absurd success failed
  · exact fun absent => absurd absent other
  · exact fun success => absurd success failed
  · exact fun _ _ => response.refusal_refused bytes
  · exact fun success => absurd success failed
  · exact response.refusal_carried bytes

theorem tellsResource_empty (accepted : Success response.status) (empty : bytes.size = 0) :
    TellsResource (α := α) r response.status bytes (.error (.notFound r none)) := by
  have kinds : Error.Kinds (.notFound r none) [.notFound r] := Error.kinds_chain _
  refine ⟨?_, ?_, ?_, ?_, ?_, ?_⟩
  · exact ⟨fun _ => Or.inr ⟨accepted, empty⟩, fun _ => ⟨_, rfl, (kinds _).mpr (by simp)⟩⟩
  · exact fun absent => absurd absent accepted.ne_absent
  · exact fun _ _ => ⟨_, rfl, kinds, rfl⟩
  · exact fun failed => absurd accepted failed
  · exact fun _ there => absurd empty there
  · exact carried_of_chain (by simp [Error.chain]) (by simp [Error.chain])

theorem tellsResource_there (accepted : Success response.status) (there : bytes.size ≠ 0)
    (read : Except Json.Fault α) :
    TellsResource r response.status bytes (read.mapError Error.decode) := by
  have outcome : (∃ value, read.mapError Error.decode = .ok value) ∨
      ∃ fault, read.mapError Error.decode = .error (.decode fault) := by
    cases read with
    | ok value => exact Or.inl ⟨value, rfl⟩
    | error fault => exact Or.inr ⟨fault, rfl⟩
  refine ⟨⟨?_, ?_⟩, ?_, ?_, ?_, fun _ _ => outcome, ?_⟩
  · rintro ⟨e, failed, missing⟩
    rcases outcome with ⟨value, h⟩ | ⟨fault, h⟩
    · rw [h] at failed
      cases failed
    · rw [h] at failed
      cases failed
      simp [Error.is, Error.kind] at missing
  · rintro (absent | ⟨-, empty⟩)
    · exact absurd absent accepted.ne_absent
    · exact absurd empty there
  · exact fun absent => absurd absent accepted.ne_absent
  · exact fun _ empty => absurd empty there
  · exact fun failed => absurd accepted failed
  · rcases outcome with ⟨value, h⟩ | ⟨fault, h⟩
    · rw [h]
      exact carried_value _ _ _
    · rw [h]
      exact carried_of_chain (by simp [Error.chain]) (by simp [Error.chain])

/-- What each way of reading an answer makes of a response whose body has been read. -/
theorem interpret_classified (reply : Reply α) (response : Response) (bytes : ByteArray) :
    Classified reply.concern response.status bytes
      (reply.interpret (response.outcome bytes)) := by
  cases reply with
  | resource r decode =>
    show TellsResource r response.status bytes _
    by_cases accepted : Success response.status
    · by_cases empty : bytes.size = 0
      · rw [interpret_resource_empty accepted empty]
        exact tellsResource_empty accepted empty
      · rw [interpret_resource_there accepted empty]
        exact tellsResource_there accepted empty _
    · rw [interpret_resource_refused accepted]
      by_cases absent : response.status = 404
      · exact tellsResource_absent absent
      · exact tellsResource_refused accepted absent
  | broadcast understood =>
    show TellsOutcome _ response.status bytes _
    by_cases accepted : Success response.status
    · rw [response.outcome_accepted accepted]
      exact ⟨fun failed => absurd accepted failed, fun _ => ⟨_, rfl⟩, carried_value _ _ _⟩
    · have failed : (Reply.broadcast understood).interpret (response.outcome bytes) =
          .error (.broadcastFailed (bodyStart bytes) (response.refusal bytes)) := by
        rw [response.outcome_refused accepted]
        rfl
      rw [failed]
      refine ⟨fun _ => ⟨_, rfl, Error.kinds_chain _, rfl⟩, fun success => absurd success accepted,
        carried_of_chain ?_ ?_⟩
      · simp [Error.chain, Response.refusal]
      · simp [Error.chain, Response.refusal]
  | plain understood =>
    show TellsOutcome _ response.status bytes _
    by_cases accepted : Success response.status
    · rw [response.outcome_accepted accepted]
      exact ⟨fun failed => absurd accepted failed, fun _ => ⟨_, rfl⟩, carried_value _ _ _⟩
    · rw [response.outcome_refused accepted]
      exact ⟨fun _ => response.refusal_refused bytes, fun success => absurd success accepted,
        response.refusal_carried bytes⟩

end Reply

end

/-! ## Queries -/

theorem Query.reply_concern (q : Query) : q.reply.concern = q.concern := by
  cases q with
  | address q => cases q <;> rfl
  | script q => cases q <;> rfl
  | block q => cases q <;> rfl
  | network q => cases q <;> rfl
  | token q => cases q <;> rfl
  | transaction q => cases q <;> rfl

/-- Why a body could not be read: its context ended, or it broke off under a context that lasts. -/
inductive Unread (response : Response) (ctx : Context) (time : Timeline) : Error → Prop where
  | ended {e : Error} (kinds : e.Kinds [.canceled] ∨ e.Kinds [.deadlineExceeded]) :
    Unread response ctx time e
  | broken (live : time.err? ctx = none) (broken : response.bodyEnd = .broken) :
    Unread response ctx time (.transport none)

theorem Unread.of_context {response : Response} {ctx : Context} {time : Timeline} {e : Error}
    (context : e.isContext = true) : Unread response ctx time e := by
  refine .ended ?_
  cases e with
  | canceled => exact Or.inl (Error.kinds_chain _)
  | deadlineExceeded => exact Or.inr (Error.kinds_chain _)
  | _ => cases context

theorem Response.readBody_of_ended {c : Context} {t : Timeline} {e : Error}
    (ended : t.err? c = some e) (r : Response) : r.readBody c t = some (.error e, t) := by
  cases ending : r.bodyEnd <;> simp [readBody, ending, ended, Timeline.untilEnd]

theorem Response.readBody_unread {r : Response} {c : Context} {t after : Timeline} {e : Error}
    (h : r.readBody c t = some (.error e, after)) : Unread r c t e := by
  cases live : t.err? c with
  | some e' =>
    rw [readBody_of_ended live] at h
    cases h
    exact .of_context (Timeline.err?_isContext live)
  | none =>
    rw [readBody_of_live live] at h
    cases ending : r.bodyEnd with
    | pending =>
      rw [ending] at h
      obtain ⟨⟨instant, e'⟩, ended, h⟩ := Option.map_eq_some_iff.mp h
      cases h
      exact .of_context (Timeline.ending?_isContext ended)
    | broken =>
      rw [ending] at h
      cases h
      exact .broken live ending
    | complete =>
      rw [ending] at h
      cases h

theorem Query.call_read {w : Wiring ε σ} {ctx : Context} {q : Query} {live : Live ε σ}
    {url : String} {request : Request} {response : Response} {world : World σ}
    {bytes : Except Error ByteArray} {time : Timeline}
    (handed : q.handed live.client = .ok (url, request))
    (answered : w.executor live.client.slot ctx request live.world = some (.ok response, world))
    (read : response.readBody ctx world.time = some (bytes, time)) :
    ∃ after, q.call w ctx live = some (q.reply.interpret (bytes.bind response.outcome), after) := by
  rw [← q.course_ended, course_read handed answered read]
  exact ⟨_, rfl⟩

/-- The answer of any query to which the executor of the client gives a response. A body that has
been read is judged together with the status. A body that cannot be read is an error of its own,
whatever the status. -/
theorem Query.response_classified (w : Wiring ε σ) (ctx : Context) (q : Query) (live : Live ε σ)
    (url : String) (request : Request) (response : Response) (world : World σ)
    (handed : q.handed live.client = .ok (url, request))
    (answered : w.executor live.client.slot ctx request live.world = some (.ok response, world)) :
    (∀ bytes time, response.readBody ctx world.time = some (.ok bytes, time) →
      ∃ answer after, q.call w ctx live = some (answer, after) ∧
        Classified q.concern response.status bytes answer) ∧
    ∀ e time, response.readBody ctx world.time = some (.error e, time) →
      (∃ after, q.call w ctx live = some (.error e, after)) ∧ Unread response ctx world.time e := by
  constructor
  · intro bytes time read
    obtain ⟨after, called⟩ := call_read handed answered read
    refine ⟨_, after, called, ?_⟩
    rw [← q.reply_concern]
    exact q.reply.interpret_classified response bytes
  · intro e time unread
    have kept : q.reply.interpret (.error e) = .error e := by
      refine q.reply.interpret_error ?_
      rintro status text rfl
      rcases Response.readBody_error unread with context | same
      · cases context
      · cases same
    obtain ⟨after, called⟩ := call_read handed answered unread
    exact ⟨⟨after, by rw [← kept]; exact called⟩,
      Response.readBody_unread unread⟩

/-- A server that knows nothing of what it is asked. -/
def forgetful : Wiring Unit Unit where
  supplied _ := fun _ _ w => some (.ok ⟨404, "  no such thing".toUTF8, .complete⟩, w)
  managed _ := .refuse
  random _ := 0
  connect _ := .ok ()

theorem Query.response_classified_forgetful :
    ∃ answer after, (Query.address (.info "1A")).call forgetful ⟨⟨[0]⟩, none⟩
        ⟨⟨{}, .standard, {}, {}, .supplied (), {}⟩, .start, ()⟩ = some (answer, after) ∧
      Refused 404 [.notFound .address, .requestFailed] answer := by
  obtain ⟨url, request, handed⟩ : ∃ url request, (Query.address (.info "1A")).handed
      (⟨{}, .standard, {}, {}, .supplied (), {}⟩ : Client Unit) = .ok (url, request) :=
    ⟨_, _, rfl⟩
  obtain ⟨judged, -⟩ := Query.response_classified forgetful ⟨⟨[0]⟩, none⟩ (.address (.info "1A"))
    ⟨⟨{}, .standard, {}, {}, .supplied (), {}⟩, .start, ()⟩ url request
    ⟨404, "  no such thing".toUTF8, .complete⟩ ⟨.start, ()⟩ handed rfl
  obtain ⟨answer, after, called, told⟩ := judged _ _ rfl
  exact ⟨answer, after, called, told.absent rfl⟩

end ExplorerClient
