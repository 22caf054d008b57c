import ExplorerClient.Session.Run

/-!
# What steps make of sessions

A step of a session makes a context, lets time go on, opens or changes a client, or only looks. What
is kept by all steps is proved from this list.

Results:
* `Session.step_turns`: all that a step can make of a session.
-/

namespace ExplorerClient

theorem Stage.context?_mem {s : Stage} {name : String} {c : Context}
    (named : s.context? name = some c) : (name, c) ∈ s.contexts := by
  obtain ⟨front, back, split, -⟩ := List.lookup_eq_some_iff.mp named
  simp [split]

namespace Session

variable {s t : Session}

theorem handle?_found {name : String} {h : Handle} {client : Client ScriptedExecutor}
    (found : s.handle? name = some (h, client)) :
    (name, h) ∈ s.handles ∧ s.clients[h.client]? = some client := by
  simp only [handle?, bind, pure, Option.bind_eq_some_iff, Option.some.injEq] at found
  obtain ⟨_, there, _, client, same⟩ := found
  cases same
  obtain ⟨front, back, split, -⟩ := List.lookup_eq_some_iff.mp there
  exact ⟨by simp [split], client⟩

/-- The session after a context has been made from another and given a name. -/
def derived (s : Session) (name : String) (p : Context) (how : Derivation) : Session :=
  let (c, time) := derive s.world.time p how
  { s with world := ⟨time, s.world.state.name name c⟩ }

/-- What a step that makes no context may make of a session. -/
inductive Alters (s : Session) : Session → Prop where
  | nothing : Alters s s
  | cancelled (name : String) (c : Context) (named : (name, c) ∈ s.world.state.contexts)
    (instant : Nat) : Alters s (s.withTime (s.world.time.cancelAt c instant))
  | slept (nanos : Nat) : Alters s (s.withTime (s.world.time.advance nanos))
  | waited (c : Context) (nanos : Nat) : Alters s (s.withTime (s.world.time.pause c nanos).2)
  | extended (script : List Cue) :
    Alters s { s with world.state.script := s.world.state.script ++ script }
  /-- A client is opened, with a handle under a context that has a name. -/
  | opened (client : Client ScriptedExecutor) (name : String) (h : Handle)
    (named : ∃ x ∈ s.world.state.contexts, x.2 = h.context) :
    Alters s (putHandle { s with clients := s.clients ++ [client] } name h)
  /-- A handle is named, under a context that has a name or is that of another handle. -/
  | handled (name : String) (h : Handle)
    (known : (∃ x ∈ s.world.state.contexts, x.2 = h.context) ∨
      ∃ x ∈ s.handles, x.2.context = h.context) : Alters s (s.putHandle name h)
  | set (h : Handle) (client : Client ScriptedExecutor)
    (found : s.clients[h.client]? = some client) (setting : Setting ScriptedExecutor) :
    Alters s (s.change h (client.set Wiring.rehearsal.connect setting)).2
  | setChainAndNetwork (h : Handle) (client : Client ScriptedExecutor)
    (found : s.clients[h.client]? = some client) (chain : Chain) (network : Network) :
    Alters s (s.change h (client.setChainAndNetwork chain network)).2
  | called (h : Handle) (client : Client ScriptedExecutor)
    (found : s.clients[h.client]? = some client) (op : Operation) (answer : Answer) (t : Session)
    (called : s.call h client op = some (answer, t)) : Alters s t

/-- What a step may make of a session. -/
def Turns (s t : Session) : Step → Prop
  | .derive name parent how => ∃ p, s.context? parent = some p ∧ t = s.derived name p how
  | _ => s.Alters t

theorem step_turns {step : Step} {answer : Answer} (h : s.step step = some (answer, t)) :
    s.Turns t step := by
  cases step with
  | contextStates | pendingScript =>
    cases h
    exact Alters.nothing
  | sleep nanos =>
    cases h
    exact .slept nanos
  | extend script =>
    cases h
    exact .extended script
  | derive name parent how =>
    simp only [Session.step, bind, pure, Option.bind_eq_some_iff] at h
    obtain ⟨p, named, same⟩ := h
    cases same
    exact ⟨p, named, rfl⟩
  | contextState name | state name | summary name | optionsSummary name | lastRequest name
  | buildUrl handle template args =>
    simp only [Session.step, bind, pure, Option.bind_eq_some_iff] at h
    obtain ⟨_, -, h⟩ := h
    cases h
    exact Alters.nothing
  | cancel name | cancelAfter name nanos =>
    simp only [Session.step, bind, pure, Option.bind_eq_some_iff] at h
    obtain ⟨c, named, h⟩ := h
    cases h
    exact .cancelled name c (Stage.context?_mem named) _
  | wait name nanos =>
    simp only [Session.step, bind, pure, Option.bind_eq_some_iff] at h
    obtain ⟨c, -, h⟩ := h
    cases h
    exact .waited c nanos
  | new name context settings =>
    simp only [Session.step, bind, pure, Option.bind_eq_some_iff] at h
    obtain ⟨c, named, h⟩ := h
    split at h
    · cases h
      exact Alters.nothing
    · cases h
      exact .opened _ name _ ⟨_, Stage.context?_mem named, rfl⟩
  | withContext name handle context =>
    simp only [Session.step, bind, pure, Option.bind_eq_some_iff] at h
    obtain ⟨_, -, c, named, h⟩ := h
    cases h
    exact .handled name _ (.inl ⟨_, Stage.context?_mem named, rfl⟩)
  | clone name handle =>
    simp only [Session.step, bind, pure, Option.bind_eq_some_iff] at h
    obtain ⟨_, found, h⟩ := h
    cases h
    exact .handled name _ (.inr ⟨_, (handle?_found found).1, rfl⟩)
  | set handle setting =>
    simp only [Session.step, bind, pure, Option.bind_eq_some_iff] at h
    obtain ⟨⟨handle, client⟩, found, same⟩ := h
    cases same
    exact .set handle client (handle?_found found).2 setting
  | setChainAndNetwork handle chain network =>
    simp only [Session.step, bind, pure, Option.bind_eq_some_iff] at h
    obtain ⟨⟨handle, client⟩, found, same⟩ := h
    have changed : t = (s.change handle (client.setChainAndNetwork chain network)).2 :=
      (congrArg Prod.snd (Option.some.inj same)).symm
    rw [changed]
    exact .setChainAndNetwork handle client (handle?_found found).2 chain network
  | call handle op =>
    simp only [Session.step, bind, Option.bind_eq_some_iff] at h
    obtain ⟨⟨handle, client⟩, found, called⟩ := h
    exact .called handle client (handle?_found found).2 op answer t called

/-- A session comes to be another by taking steps. -/
inductive Leads : Session → Session → Prop where
  | refl (s : Session) : Leads s s
  | step {s t u : Session} {step : Step} {answer : Answer} :
    Leads s t → t.step step = some (answer, u) → Leads s u

end Session

end ExplorerClient
