import ExplorerClient.Endpoint.Basic

/-!
# Errors below errors

Below an error may lie its cause, which is another error or the report of what read a body. What an
error answers to a question for a kind or for a status is what the errors that its causes lead to
say themselves. Two functions put one more error on top of some errors. They take nothing away.

Results:
* `is_iff_leadsTo`: the kinds that an error is known by.
* `status_eq_of_leadsTo`, `status_of_innermost`: the status that it carries.
* `onMissing_wraps`, `onRejected_wraps`: what the two functions keep, and what they add.
* `seen_through`: all of this for any error.
-/

namespace ExplorerClient

namespace Error

/-! ## Causes -/

/-- What lies directly below an error. -/
inductive Cause where
  | error (e : Error)
  /-- What read a body says what is wrong with it. -/
  | report (fault : Json.Fault)

/-- What lies directly below the error, if anything does. -/
def cause? : Error → Option Cause
  | .notFound _ source => source.map .error
  | .broadcastFailed _ source => some (.error source)
  | .decode fault => some (.report fault)
  | _ => none

/-- Do the causes lead from the first error to the second? -/
inductive LeadsTo : Error → Error → Prop where
  | self (e : Error) : LeadsTo e e
  | next {e source c : Error} (wraps : e.cause? = some (.error source))
    (further : LeadsTo source c) : LeadsTo e c

/-- Does no error lie below this one? -/
def Innermost (e : Error) : Prop := ∀ source, e.cause? ≠ some (.error source)

/-- The status that the error carries itself. -/
def ownStatus? : Error → Option Nat
  | .requestFailed status _ => some status
  | .transport status => status
  | _ => none

/-! ## Kinds -/

theorem mem_chain_iff (e c : Error) : c ∈ e.chain ↔ e.LeadsTo c := by
  constructor
  · intro there
    fun_induction chain e with
    | case1 r source ih =>
      rcases List.mem_cons.mp there with rfl | later
      · exact .self _
      · exact .next rfl (ih later)
    | case2 body source ih =>
      rcases List.mem_cons.mp there with rfl | later
      · exact .self _
      · exact .next rfl (ih later)
    | case3 e =>
      rw [List.mem_singleton.mp there]
      exact .self _
  · intro leads
    induction leads with
    | self e =>
      unfold chain
      split <;> exact List.mem_cons_self
    | @next e source c wraps _ ih =>
      cases e with
      | notFound r source' =>
        obtain ⟨_, rfl, same⟩ := Option.map_eq_some_iff.mp wraps
        cases same
        exact List.mem_cons_of_mem _ ih
      | broadcastFailed body source' =>
        cases wraps
        exact List.mem_cons_of_mem _ ih
      | _ => cases wraps

/-- An error is known by the kinds of the errors that its causes lead to. -/
theorem is_iff_leadsTo (e : Error) (k : ErrorKind) :
    e.is k = true ↔ ∃ c, e.LeadsTo c ∧ c.kind = k := by
  simp only [is_iff_mem_chain, mem_chain_iff]

/-! ## Statuses -/

theorem status_of_wraps {e source : Error} (wraps : e.cause? = some (.error source)) :
    e.status = source.status := by
  cases e with
  | notFound r source' =>
    obtain ⟨_, rfl, same⟩ := Option.map_eq_some_iff.mp wraps
    cases same
    rfl
  | broadcastFailed body source' =>
    cases wraps
    rfl
  | _ => cases wraps

/-- All errors that the causes lead to have one status. -/
theorem status_eq_of_leadsTo {e c : Error} (leads : e.LeadsTo c) : e.status = c.status := by
  induction leads with
  | self => rfl
  | next wraps _ ih => rw [status_of_wraps wraps, ih]

theorem Innermost.status {e : Error} (inner : e.Innermost) : e.status = e.ownStatus? := by
  cases e with
  | notFound r source =>
    cases source with
    | none => rfl
    | some source => exact absurd rfl (inner source)
  | broadcastFailed body source => exact absurd rfl (inner source)
  | _ => rfl

/-- The innermost error says what the status is. -/
theorem status_of_innermost {e c : Error} (leads : e.LeadsTo c) (inner : c.Innermost) :
    e.status = c.ownStatus? := by
  rw [status_eq_of_leadsTo leads, inner.status]

theorem exists_innermost (e : Error) : ∃ c, e.LeadsTo c ∧ c.Innermost := by
  fun_induction chain e with
  | case1 r source ih | case2 body source ih =>
    obtain ⟨c, leads, inner⟩ := ih
    exact ⟨c, .next rfl leads, inner⟩
  | case3 e bare unsent =>
    refine ⟨e, .self e, fun source wraps => ?_⟩
    cases e with
    | notFound r source' =>
      obtain ⟨_, rfl, -⟩ := Option.map_eq_some_iff.mp wraps
      exact bare _ _ rfl
    | broadcastFailed body source' => exact unsent _ _ rfl
    | _ => cases wraps

/-- The error is known by the kinds of the errors below it and by its own, and carries the status of
the innermost one. -/
structure SeenThrough (e : Error) : Prop where
  kinds : ∀ k, e.is k = true ↔ ∃ c, e.LeadsTo c ∧ c.kind = k
  innermost : ∃ c, e.LeadsTo c ∧ c.Innermost
  status : ∀ c, e.LeadsTo c → c.Innermost → e.status = c.ownStatus?

/-! ## Errors put on top -/

/-- Does the error say that the service refused the request, with a status that fits? -/
def Rejection (fits : Nat → Prop) (e : Error) : Prop :=
  ∃ status body, e = .requestFailed status body ∧ fits status

/-- The function puts an error of one kind on top of some errors: it adds that kind, keeps all
kinds and the status, and leaves other errors as they are. -/
structure Wraps (wrap : Error → Error) (covered : Error → Prop) (added : ErrorKind)
    (e : Error) : Prop where
  kinds : ∀ k, (wrap e).is k = true ↔ e.is k = true ∨ covered e ∧ k = added
  status : (wrap e).status = e.status
  others : ¬ covered e → wrap e = e

theorem Wraps.of_others {wrap : Error → Error} {covered : Error → Prop} {e : Error}
    (other : ¬ covered e) (same : wrap e = e) (added : ErrorKind) : Wraps wrap covered added e where
  kinds k := by simp [same, other]
  status := by rw [same]
  others _ := same

end Error

open Error

namespace Reply

theorem onMissing_eq_self (r : Resource) {e : Error} (other : ¬ e.Rejection (· = 404)) :
    onMissing r e = e := by
  unfold onMissing
  split
  · exact absurd ⟨404, _, rfl, rfl⟩ other
  · rfl

theorem onMissing_wraps (r : Resource) (e : Error) :
    Wraps (onMissing r) (Rejection (· = 404)) (.notFound r) e := by
  by_cases refused : e.Rejection (· = 404)
  · obtain ⟨_, body, rfl, rfl⟩ := refused
    refine ⟨fun k => ?_, rfl, fun other => absurd ⟨404, body, rfl, rfl⟩ other⟩
    have there : (Error.requestFailed 404 body).Rejection (· = 404) := ⟨404, body, rfl, rfl⟩
    rw [onMissing_404, Error.is]
    simp only [there, true_and, Bool.or_eq_true, beq_iff_eq, Error.kind]
    exact or_comm.trans (or_congr_right eq_comm)
  · exact .of_others refused (onMissing_eq_self r refused) _

theorem onRejected_eq_self {e : Error} (other : ¬ e.Rejection fun _ => True) : onRejected e = e := by
  unfold onRejected
  split
  · exact absurd ⟨_, _, rfl, trivial⟩ other
  · rfl

theorem onRejected_wraps (e : Error) :
    Wraps onRejected (Rejection fun _ => True) .broadcastFailed e := by
  by_cases refused : e.Rejection fun _ => True
  · obtain ⟨status, body, rfl, -⟩ := refused
    have there : (Error.requestFailed status body).Rejection fun _ => True :=
      ⟨status, body, rfl, trivial⟩
    refine ⟨fun k => ?_, rfl, fun other => absurd there other⟩
    rw [onRejected, Error.is]
    simp only [there, true_and, Bool.or_eq_true, beq_iff_eq, Error.kind]
    exact or_comm.trans (or_congr_right eq_comm)
  · exact .of_others refused (onRejected_eq_self refused) _

theorem onMissing_onMissing (r other : Resource) (e : Error) :
    onMissing other (onMissing r e) = onMissing r e := by
  by_cases refused : e.Rejection (· = 404)
  · obtain ⟨_, body, rfl, rfl⟩ := refused
    rfl
  · rw [onMissing_eq_self r refused, onMissing_eq_self other refused]

theorem onRejected_onRejected (e : Error) : onRejected (onRejected e) = onRejected e := by
  by_cases refused : e.Rejection fun _ => True
  · obtain ⟨status, body, rfl, -⟩ := refused
    rfl
  · rw [onRejected_eq_self refused, onRejected_eq_self refused]

end Reply

open Reply (onMissing onRejected)

/-- What is asked of an error is answered by the errors below it and by itself. Saying that a
resource is missing, or that a broadcast failed, adds at most the one kind to a refusal, changes no
other error, and changes nothing the second time. -/
theorem Error.seen_through (e : Error) (r other : Resource) :
    e.SeenThrough ∧
      Wraps (onMissing r) (Rejection (· = 404)) (.notFound r) e ∧
      Wraps onRejected (Rejection fun _ => True) .broadcastFailed e ∧
      onMissing other (onMissing r e) = onMissing r e ∧
      onRejected (onRejected e) = onRejected e :=
  ⟨⟨e.is_iff_leadsTo, e.exists_innermost, fun _ => status_of_innermost⟩,
    Reply.onMissing_wraps r e, Reply.onRejected_wraps e, Reply.onMissing_onMissing r other e,
    Reply.onRejected_onRejected e⟩

end ExplorerClient
