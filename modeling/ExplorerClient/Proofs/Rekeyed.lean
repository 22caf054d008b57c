import ExplorerClient.Client.Environment
import ExplorerClient.Client.Summary
import ExplorerClient.Proofs.Chosen
import ExplorerClient.Proofs.Required
import Mathlib.Data.List.Forall2

/-!
# Clients with other keys

Two keys are alike if neither being empty nor being fit for a header tells them apart. Where keys
are exchanged for others that are alike, clients are made or refused alike, take settings or refuse
them alike, look alike, and hand over requests that differ in the value of one header alone.

Results:
* `Client.new_alike`, `Client.ofEnvironment_alike`, `Client.set_alike`: making and changing clients.
* `Client.Alike.face`: what is seen of a client.
* `Query.handed_alike`: what a query hands over.
-/

namespace ExplorerClient

variable {ε α β γ δ : Type}

/-! ## Outcomes in two runs -/

/-- Both fail with the same error, or both come to values that belong together. -/
inductive Together (r : α → β → Prop) : Except Error α → Except Error β → Prop
  | failed (e : Error) : Together r (.error e) (.error e)
  | ended {a : α} {b : β} (h : r a b) : Together r (.ok a) (.ok b)

namespace Together

variable {r : α → β → Prop} {s : γ → δ → Prop} {x : Except Error α} {y : Except Error β}

theorem same (x : Except Error α) : Together Eq x x := by
  cases x with
  | error e => exact .failed e
  | ok a => exact .ended rfl

theorem bind {f : α → Except Error γ} {g : β → Except Error δ} (h : Together r x y)
    (next : ∀ a b, r a b → Together s (f a) (g b)) : Together s (x >>= f) (y >>= g) := by
  cases h with
  | failed e => exact .failed e
  | ended h => exact next _ _ h

theorem map {f : α → γ} {g : β → δ} (h : Together r x y) (next : ∀ a b, r a b → s (f a) (g b)) :
    Together s (x.map f) (y.map g) := by
  cases h with
  | failed e => exact .failed e
  | ended h => exact .ended (next _ _ h)

theorem map_eq {f : α → γ} {g : β → γ} (h : Together r x y) (next : ∀ a b, r a b → f a = g b) :
    x.map f = y.map g := by
  cases h with
  | failed e => rfl
  | ended h => exact congrArg Except.ok (next _ _ h)

end Together

/-! ## Keys -/

/-- Two texts that nothing but their value tells apart as keys. -/
structure KeysAlike (k k' : String) : Prop where
  empty : k = "" ↔ k' = ""
  carriable : Carriable k ↔ Carriable k'

theorem KeysAlike.refl (k : String) : KeysAlike k k := ⟨Iff.rfl, Iff.rfl⟩

/-- Two keys that may be missing: neither is there, or both are there and alike. -/
abbrev StoredAlike : Option String → Option String → Prop := Option.Rel KeysAlike

namespace StoredAlike

variable {key key' : Option String}

theorem refl (key : Option String) : StoredAlike key key := by
  cases key with
  | none => exact .none
  | some k => exact .some (.refl k)

theorem ofText {k k' : String} (h : KeysAlike k k') : StoredAlike (keyOfText k) (keyOfText k') := by
  unfold keyOfText
  by_cases empty : k = ""
  · rw [if_pos empty, if_pos (h.empty.mp empty)]
    exact .none
  · rw [if_neg empty, if_neg fun empty' => empty (h.empty.mpr empty')]
    exact .some h

/-- What only depends on whether there is a key. -/
theorem map_const (h : StoredAlike key key') (b : β) :
    (key.map fun _ => b) = key'.map fun _ => b := by
  cases h <;> rfl

end StoredAlike

/-! ## Settings -/

/-- The same setting, or two keys that are alike. -/
inductive Setting.Alike : Setting ε → Setting ε → Prop
  | same (s : Setting ε) : Alike s s
  | key {k k' : String} (h : KeysAlike k k') : Alike (.apiKey k) (.apiKey k')

theorem Setting.Alike.summary {s s' : Setting ε} (h : s.Alike s') : s.summary = s'.summary := by
  cases h <;> rfl

/-- Options with another key. -/
def Options.withKey (o : Options) (key : Option String) : Options := { o with apiKey := key }

/-- Choices with another key. -/
def Choices.withKey (c : Choices ε) (key : Option String) : Choices ε :=
  { c with options := c.options.withKey key }

/-- A client with another key. -/
def Client.withKey (c : Client ε) (key : Option String) : Client ε :=
  { c with options := c.options.withKey key }

/-- The same choices, apart from keys that are alike. -/
def Choices.Alike (c d : Choices ε) : Prop :=
  ∃ key, StoredAlike c.options.apiKey key ∧ d = c.withKey key

/-- The same client, apart from keys that are alike. -/
def Client.Alike (c d : Client ε) : Prop :=
  ∃ key, StoredAlike c.options.apiKey key ∧ d = c.withKey key

theorem Choices.take_alike {c d : Choices ε} {s s' : Setting ε} (h : c.Alike d) (hs : s.Alike s') :
    (c.take s).Alike (d.take s') := by
  obtain ⟨key, stored, rfl⟩ := h
  cases hs with
  | key h => exact ⟨_, .ofText h, rfl⟩
  | same =>
    cases s with
    | apiKey value => exact ⟨_, .refl _, rfl⟩
    | _ => exact ⟨key, stored, rfl⟩

theorem Choices.ofSettings_alike {settings settings' : List (Setting ε)}
    (h : List.Forall₂ Setting.Alike settings settings') :
    (Choices.ofSettings settings).Alike (.ofSettings settings') := by
  have run : ∀ {c d : Choices ε}, c.Alike d →
      (settings.foldl take c).Alike (settings'.foldl take d) := by
    induction h with
    | nil => exact id
    | cons first _ ih => exact fun alike => ih (take_alike alike first)
  exact run ⟨none, .none, rfl⟩

/-! ## Making and changing clients -/

namespace Client

variable {c d : Client ε}

theorem ofChoices_alike (connect : Connect) {choices choices' : Choices ε}
    (h : choices.Alike choices') :
    Together Alike (ofChoices connect choices) (ofChoices connect choices') := by
  obtain ⟨key, stored, rfl⟩ := h
  rw [ofChoices_eq, ofChoices_eq]
  exact (Together.same (choices.check connect)).map fun _ _ _ => ⟨key, stored, rfl⟩

theorem new_alike (connect : Connect) {settings settings' : List (Setting ε)}
    (h : List.Forall₂ Setting.Alike settings settings') :
    Together Alike (new connect settings) (new connect settings') :=
  ofChoices_alike connect (Choices.ofSettings_alike h)

theorem setChainAndNetwork_alike (h : c.Alike d) (chain : Chain) (network : Network) :
    Together Alike (c.setChainAndNetwork chain network) (d.setChainAndNetwork chain network) := by
  obtain ⟨key, stored, rfl⟩ := h
  exact (Together.same (requireAvailable chain network)).bind fun _ _ _ =>
    .ended ⟨key, stored, rfl⟩

theorem reconfigure_alike (connect : Connect) (h : c.Alike d) (update : Managed → Managed) :
    Together Alike (reconfigure connect c update) (reconfigure connect d update) := by
  obtain ⟨key, stored, rfl⟩ := h
  have slot : (c.withKey key).slot = c.slot := rfl
  unfold reconfigure
  rw [slot]
  cases c.slot with
  | supplied executor => exact .ended ⟨key, stored, rfl⟩
  | managed _ =>
    exact (Together.same (manage connect (update c.config))).bind fun made _ same =>
      .ended ⟨key, stored, by rw [same]; rfl⟩

theorem set_alike (connect : Connect) (h : c.Alike d) {s s' : Setting ε} (hs : s.Alike s') :
    Together Alike (c.set connect s) (d.set connect s') := by
  have unkeyed := h
  obtain ⟨key, stored, rfl⟩ := h
  cases hs with
  | key h => exact .ended ⟨_, .ofText h, rfl⟩
  | same =>
    cases s with
    | chain value | network value => exact setChainAndNetwork_alike unkeyed _ _
    | apiKey value => exact .ended ⟨_, .refl _, rfl⟩
    | userAgent value | rateLimit value | executor value => exact .ended ⟨key, stored, rfl⟩
    | requestTimeout value | retryCount value | backoff value | dialer value | pool value =>
      rw [set, set]
      exact reconfigure_alike connect unkeyed _

end Client

/-- The same environment, apart from keys that are alike once they are trimmed. -/
structure Environment.Alike (env env' : Environment) : Prop where
  chain : env.chain = env'.chain
  network : env.network = env'.network
  apiKey : StoredAlike (Environment.text? env.apiKey) (Environment.text? env'.apiKey)

theorem Environment.settings_alike {env env' : Environment} (h : env.Alike env') :
    Together (List.Forall₂ Setting.Alike) (env.settings : Except Error (List (Setting ε)))
      env'.settings := by
  have refl : ∀ ss : List (Setting ε), List.Forall₂ Setting.Alike ss ss := fun ss =>
    List.forall₂_same.mpr fun s _ => .same s
  have apiKey : Together (List.Forall₂ Setting.Alike)
      (setting? env.apiKey .ok .apiKey : Except Error (List (Setting ε)))
      (setting? env'.apiKey .ok .apiKey) := by
    have keys := h.apiKey
    unfold setting?
    generalize text? env.apiKey = key at keys ⊢
    generalize text? env'.apiKey = key' at keys ⊢
    cases keys with
    | none => exact .ended .nil
    | some h => exact .ended (.cons (.key h) .nil)
  unfold settings
  rw [h.chain, h.network]
  refine (Together.same _).bind ?_
  rintro chain _ rfl
  refine (Together.same _).bind ?_
  rintro network _ rfl
  refine apiKey.bind fun keys keys' same => .ended ?_
  exact List.rel_append (refl _) same

theorem Client.ofEnvironment_alike (connect : Connect) {env env' : Environment}
    (h : env.Alike env') :
    Together Alike (ofEnvironment connect env : Except Error (Client ε))
      (ofEnvironment connect env') :=
  (Environment.settings_alike h).bind fun _ _ same => new_alike connect same

/-! ## What is seen of a client -/

/-- What anyone may see of a client: everything but the value of its key, its diagnostic texts, and
the addresses it makes. -/
structure Face (ε : Type) where
  client : Client ε
  summary : String
  optionsSummary : String
  url : String → List Route.Argument → Except Error String

/-- What is seen of a client. -/
def Client.face (c : Client ε) : Face ε where
  client := c.withKey (c.options.apiKey.map fun _ => redacted)
  summary := c.summary
  optionsSummary := c.options.summary
  url := c.buildUrl

theorem Options.summary_withKey {o : Options} {key : Option String}
    (stored : StoredAlike o.apiKey key) : (o.withKey key).summary = o.summary := by
  have shown := stored.map_const redacted
  unfold summary
  rw [shown]
  rfl

theorem Client.Alike.face {c d : Client ε} (h : c.Alike d) : c.face = d.face := by
  obtain ⟨key, stored, rfl⟩ := h
  have shown := stored.map_const redacted
  have options := Options.summary_withKey stored
  have whole : (c.withKey key).summary = c.summary := by
    unfold summary withKey
    rw [options]
  unfold Client.face
  rw [whole, shown]
  exact congrArg (Face.mk _ _ · _) options.symm

/-! ## Requests -/

/-- Headers without the value of a key. -/
def concealed (headers : List (String × String)) : List (String × String) :=
  headers.map fun h => if h.1 = apiKeyHeader then (h.1, redacted) else h

/-- A request without the value of a key. -/
def Request.concealed (r : Request) : Request :=
  { r with headers := ExplorerClient.concealed r.headers }

theorem header_apiKey_alike {k k' : String} (h : KeysAlike k k') :
    Together (fun a b => concealed [a] = concealed [b]) (header apiKeyHeader k)
      (header apiKeyHeader k') := by
  have legal : isHeaderValue k = isHeaderValue k' := by
    rw [Bool.eq_iff_iff, isHeaderValue_iff, isHeaderValue_iff]
    exact h.carriable
  unfold header
  rw [legal]
  split
  · exact .ended (by simp [concealed])
  · exact .failed _

namespace Client

variable {c d : Client ε}

theorem identity_alike (h : c.Alike d) :
    Together (fun a b => concealed a = concealed b) c.identity d.identity := by
  obtain ⟨key, stored, rfl⟩ := h
  have named : (c.withKey key).options.userAgent = c.options.userAgent := rfl
  have keyed : (c.withKey key).options.apiKey = key := rfl
  unfold identity
  rw [named, keyed]
  refine (Together.same _).bind ?_
  rintro agent _ rfl
  generalize c.options.apiKey = own at stored
  cases stored with
  | none => exact .ended rfl
  | some alike =>
    refine (header_apiKey_alike alike).bind fun a b same => .ended ?_
    exact congrArg (concealed [agent] ++ ·) same

theorem request_alike (h : c.Alike d) (method : Method) (url : String) (body : Option String) :
    Together (fun r r' => r.concealed = r'.concealed) (c.request method url body)
      (d.request method url body) := by
  unfold request
  refine (Together.same _).bind ?_
  rintro address _ rfl
  refine (identity_alike h).bind fun headers headers' same => .ended ?_
  have sent : concealed (if method.sendsBody then
        headers ++ [("content-type", "application/json")] else headers) =
      concealed (if method.sendsBody then
        headers' ++ [("content-type", "application/json")] else headers') := by
    split
    · simp only [concealed, List.map_append] at same ⊢
      rw [same]
    · exact same
  simp only [Request.concealed, sent]

end Client

theorem Query.handed_alike {c d : Client ε} (h : c.Alike d) (q : Query) :
    Together (fun a b => a.1 = b.1 ∧ a.2.concealed = b.2.concealed) (q.handed c) (q.handed d) := by
  have url : q.inquiry.url c = q.inquiry.url d := by
    obtain ⟨key, -, rfl⟩ := h
    rfl
  unfold handed
  rw [url]
  refine (Together.same _).bind ?_
  rintro url _ rfl
  exact (Client.request_alike h _ url _).bind fun r r' same => .ended ⟨rfl, same⟩

end ExplorerClient
