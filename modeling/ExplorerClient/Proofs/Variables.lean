import ExplorerClient.Client.Environment
import ExplorerClient.Proofs.Cleaned
import ExplorerClient.Proofs.Gradual
import ExplorerClient.Proofs.Required
import Mathlib.Data.List.Forall2

/-!
# What variables of the environment say

Three variables of the environment may say something about a client. What a variable says stands
between blanks, and a variable that is not set, cannot be read or holds nothing but blanks says
nothing. Two of them name a chain and a network, where the size of ASCII letters makes no
difference, and the third one holds the key.

Results:
* `Text.lowercase_eq_iff`: comparing in small letters is comparing up to the size of letters.
* `Environment.yields_iff`: what a variable says.
* `Environment.setting?_told`: the setting that a variable gives, or the text that is no name.
* `Client.ofEnvironment_told`: the client of any environment.
-/

namespace ExplorerClient

/-! ## Texts -/

namespace Text

/-- The text is what stands between the blanks at the two ends of another one. -/
def Within (whole text : String) : Prop :=
  ∃ front back, whole.toList = front ++ text.toList ++ back ∧
    (∀ c ∈ front, isBlank c = true) ∧ (∀ c ∈ back, isBlank c = true) ∧ Bare isBlank text.toList

theorem trim_eq_iff {whole text : String} : trim whole = text ↔ Within whole text := by
  constructor
  · rintro rfl
    rw [Within, trim, String.toList_ofList]
    exact stripEnds_parts isBlank whole.toList
  · rintro ⟨front, back, parts, opening, closing, bare⟩
    rw [trim, parts, stripEnds_enclosed opening closing bare, String.ofList_toList]

theorem trim_eq_self {text : String} (bare : Bare isBlank text.toList) : trim text = text :=
  trim_eq_iff.mpr ⟨[], [], by simp, by simp, by simp, bare⟩

theorem fromUTF8?_eq_some_iff {bytes : ByteArray} {text : String} :
    String.fromUTF8? bytes = some text ↔ bytes = text.toUTF8 := by
  constructor
  · intro read
    unfold String.fromUTF8? at read
    split at read
    · cases read
      rfl
    · cases read
  · rintro rfl
    exact fromUTF8?_toUTF8 text

/-- The same character, or the same ASCII letter in the other size. -/
def SameLetter (c d : Char) : Prop :=
  c = d ∨ ∃ i < 26, c.toNat = 65 + i ∧ d.toNat = 97 + i ∨ c.toNat = 97 + i ∧ d.toNat = 65 + i

/-- The same text up to the size of ASCII letters. -/
def SameLetters (s t : String) : Prop := List.Forall₂ SameLetter s.toList t.toList

theorem isUpper_iff (c : Char) : c.isUpper = true ↔ 65 ≤ c.toNat ∧ c.toNat ≤ 90 :=
  decide_eq_true_iff

theorem toLower_toNat (c : Char) :
    c.toLower.toNat = if 65 ≤ c.toNat ∧ c.toNat ≤ 90 then c.toNat + 32 else c.toNat := by
  by_cases range : 65 ≤ c.toNat ∧ c.toNat ≤ 90
  · have sum : c.toLower.val = c.val + 32 := by
      unfold Char.toLower
      rw [dif_pos (show c.val ≥ 'A'.val ∧ c.val ≤ 'Z'.val from range)]
      rfl
    rw [if_pos range]
    show c.toLower.val.toNat = c.val.toNat + 32
    rw [sum, UInt32.toNat_add]
    have : c.val.toNat ≤ 90 := range.2
    have : (32 : UInt32).toNat = 32 := rfl
    omega
  · rw [if_neg range]
    unfold Char.toLower
    rw [dif_neg (show ¬ (c.val ≥ 'A'.val ∧ c.val ≤ 'Z'.val) from range)]

theorem toLower_eq_iff {c d : Char} (small : d.isUpper = false) :
    c.toLower = d ↔ SameLetter c d := by
  have small : ¬ (65 ≤ d.toNat ∧ d.toNat ≤ 90) := fun range => by
    rw [(isUpper_iff d).mpr range] at small
    cases small
  rw [← Char.toNat_inj, toLower_toNat]
  constructor
  · intro same
    split at same
    · exact Or.inr ⟨c.toNat - 65, by omega, Or.inl ⟨by omega, by omega⟩⟩
    · exact Or.inl (Char.toNat_inj.mp same)
  · rintro (rfl | ⟨i, small_i, ⟨capital, letter⟩ | ⟨letter, capital⟩⟩)
    · rw [if_neg small]
    · rw [if_pos (by omega)]
      omega
    · omega

theorem map_toLower_eq_iff {cs ds : List Char} (small : ∀ d ∈ ds, d.isUpper = false) :
    cs.map Char.toLower = ds ↔ List.Forall₂ SameLetter cs ds := by
  induction cs generalizing ds with
  | nil => cases ds <;> simp
  | cons c cs ih =>
    cases ds with
    | nil => simp
    | cons d ds =>
      rw [List.map_cons, List.cons.injEq, List.forall₂_cons,
        toLower_eq_iff (small d List.mem_cons_self),
        ih fun x there => small x (List.mem_cons_of_mem d there)]

theorem lowercase_eq_iff {s t : String} (small : ∀ d ∈ t.toList, d.isUpper = false) :
    lowercase s = t ↔ SameLetters s t := by
  rw [lowercase, ← String.toList_inj, String.toList_ofList]
  exact map_toLower_eq_iff small

/-- Of things whose names are written in small letters, the one of a name that is compared in small
letters has this name up to the size of letters. -/
theorem find_lowercase {α : Type} {name : α → String} {all : List α} (complete : ∀ a, a ∈ all)
    (small : ∀ a, ((name a).toList.all fun d => !d.isUpper) = true) (text : String) :
    (∃ a, all.find? (name · == lowercase text) = some a ∧ SameLetters text (name a)) ∨
      all.find? (name · == lowercase text) = none ∧ ∀ a, ¬ SameLetters text (name a) := by
  have small : ∀ a, ∀ d ∈ (name a).toList, d.isUpper = false := fun a => by simpa using small a
  cases found : all.find? (name · == lowercase text) with
  | some a =>
    have same : name a = lowercase text := beq_iff_eq.mp (List.find?_some found :)
    exact Or.inl ⟨a, rfl, (lowercase_eq_iff (small a)).mp same.symm⟩
  | none =>
    refine Or.inr ⟨rfl, fun a same => ?_⟩
    have differ := List.find?_eq_none.mp found a (complete a)
    exact differ (beq_iff_eq.mpr ((lowercase_eq_iff (small a)).mpr same).symm)

end Text

/-! ## Names of chains and networks -/

/-- A text is read as the thing whose name it is, up to the size of letters, and refused if it is no
name at all. -/
def Recognized {α : Type} (name : α → String) (invalid : String → Error) (text : String)
    (read : Except Error α) : Prop :=
  (∃ a, read = .ok a ∧ Text.SameLetters text (name a)) ∨
    read = .error (invalid text) ∧ ∀ a, ¬ Text.SameLetters text (name a)

theorem Chain.parse_recognized {text : String} (bare : Text.Bare Text.isBlank text.toList) :
    Recognized Chain.name .invalidChain text (Chain.parse text) := by
  have complete : ∀ c, c ∈ Chain.all := by
    intro c
    cases c <;> decide
  have small : ∀ c : Chain, (c.name.toList.all fun d => !d.isUpper) = true := by
    intro c
    cases c <;> decide
  unfold Chain.parse Chain.ofName?
  rw [Text.trim_eq_self bare]
  rcases Text.find_lowercase complete small text with ⟨c, found, same⟩ | ⟨found, unknown⟩
  · exact Or.inl ⟨c, by rw [found], same⟩
  · exact Or.inr ⟨by rw [found], unknown⟩

theorem Network.parse_recognized {text : String} (bare : Text.Bare Text.isBlank text.toList) :
    Recognized Network.name .invalidNetwork text (Network.parse text) := by
  have complete : ∀ n, n ∈ Network.all := by
    intro n
    cases n <;> decide
  have small : ∀ n : Network, (n.name.toList.all fun d => !d.isUpper) = true := by
    intro n
    cases n <;> decide
  unfold Network.parse Network.ofName?
  rw [Text.trim_eq_self bare]
  rcases Text.find_lowercase complete small text with ⟨n, found, same⟩ | ⟨found, unknown⟩
  · exact Or.inl ⟨n, by rw [found], same⟩
  · exact Or.inr ⟨by rw [found], unknown⟩

/-! ## Variables -/

namespace Environment

/-- What a variable says, if it says something. -/
inductive Yields : Option ByteArray → Option String → Prop where
  | unset : Yields none none
  | unreadable (bytes : ByteArray) (h : ∀ text : String, bytes ≠ text.toUTF8) :
    Yields (some bytes) none
  | blank (whole : String) (h : ∀ c ∈ whole.toList, Text.isBlank c = true) :
    Yields (some whole.toUTF8) none
  | text (whole text : String) (within : Text.Within whole text) (there : text ≠ "") :
    Yields (some whole.toUTF8) (some text)

theorem text?_toUTF8 (whole : String) :
    text? (some whole.toUTF8) =
      if Text.trim whole = "" then none else some (Text.trim whole) := by
  simp only [text?, Text.fromUTF8?_toUTF8, bind, Option.bind]

theorem yields_iff {bytes? : Option ByteArray} {said : Option String} :
    Yields bytes? said ↔ text? bytes? = said := by
  constructor
  · intro yields
    cases yields with
    | unset => rfl
    | unreadable bytes h =>
      have failed : String.fromUTF8? bytes = none := by
        cases read : String.fromUTF8? bytes with
        | none => rfl
        | some text => exact absurd (Text.fromUTF8?_eq_some_iff.mp read) (h text)
      simp only [text?, failed, bind, Option.bind]
    | blank whole h => rw [text?_toUTF8, if_pos (Text.trim_eq_empty_iff.mpr h)]
    | text whole text within there =>
      rw [text?_toUTF8, Text.trim_eq_iff.mpr within, if_neg there]
  · rintro rfl
    cases bytes? with
    | none => exact .unset
    | some bytes =>
      cases read : String.fromUTF8? bytes with
      | none =>
        have nothing : text? (some bytes) = none := by simp only [text?, read, bind, Option.bind]
        rw [nothing]
        refine .unreadable bytes fun text same => ?_
        rw [Text.fromUTF8?_eq_some_iff.mpr same] at read
        cases read
      | some whole =>
        obtain rfl := Text.fromUTF8?_eq_some_iff.mp read
        rw [text?_toUTF8]
        split
        · rename_i empty
          exact .blank whole (Text.trim_eq_empty_iff.mp empty)
        · rename_i there
          exact .text whole _ (Text.trim_eq_iff.mp rfl) there

theorem Yields.bare {bytes? : Option ByteArray} {text : String}
    (yields : Yields bytes? (some text)) :
    text ≠ "" ∧ Text.Bare Text.isBlank text.toList := by
  cases yields with
  | text whole text within there =>
    obtain ⟨-, -, -, -, -, bare⟩ := within
    exact ⟨there, bare⟩

/-- What a variable names among things that have names, if it names something. -/
inductive Names {α : Type} (name : α → String) (bytes? : Option ByteArray) : Option α → Prop where
  | nothing (silent : Yields bytes? none) : Names name bytes? none
  | named (text : String) (a : α) (yields : Yields bytes? (some text))
    (same : Text.SameLetters text (name a)) : Names name bytes? (some a)

/-- A variable says something that is no name. -/
structure Misnames {α : Type} (name : α → String) (bytes? : Option ByteArray) (text : String) :
    Prop where
  yields : Yields bytes? (some text)
  unknown : ∀ a, ¬ Text.SameLetters text (name a)

/-- The setting that a variable gives. -/
theorem setting?_told {ε α : Type} {name : α → String} {invalid : String → Error}
    {parse : String → Except Error α}
    (recognizes : ∀ text, Text.Bare Text.isBlank text.toList →
      Recognized name invalid text (parse text))
    (bytes? : Option ByteArray) (make : α → Setting ε) :
    (∃ a?, Names name bytes? a? ∧ setting? bytes? parse make = .ok (a?.toList.map make)) ∨
      ∃ text, Misnames name bytes? text ∧
        setting? bytes? parse make = .error (invalid text) := by
  unfold setting?
  cases said : text? bytes? with
  | none => exact Or.inl ⟨none, .nothing (yields_iff.mpr said), rfl⟩
  | some text =>
    have yields := yields_iff.mpr said
    rcases recognizes text yields.bare.2 with ⟨a, read, same⟩ | ⟨refused, unknown⟩
    · refine Or.inl ⟨some a, .named text a yields same, ?_⟩
      simp only [read]
      rfl
    · refine Or.inr ⟨text, ⟨yields, unknown⟩, ?_⟩
      simp only [refused]
      rfl

/-- The setting for the key, which may be any text. -/
theorem setting?_apiKey {ε : Type} (bytes? : Option ByteArray) :
    (setting? bytes? .ok .apiKey : Except Error (List (Setting ε))) =
      .ok ((text? bytes?).toList.map .apiKey) := by
  unfold setting?
  cases text? bytes? <;> rfl

/-- The settings for a chain, a network and a key, of which each may be missing. -/
def given {ε : Type} (chain : Option Chain) (network : Option Network) (key : Option String) :
    List (Setting ε) :=
  chain.toList.map .chain ++ network.toList.map .network ++ key.toList.map .apiKey

/-- Standard choices but for a chain, a network and a key. -/
def choices {ε : Type} (chain : Option Chain) (network : Option Network) (key : Option String) :
    Choices ε where
  options := { chain := chain.getD .bsv, network := network.getD .main, apiKey := key }

theorem ofSettings_given {ε : Type} (chain : Option Chain) (network : Option Network)
    {key : Option String} (there : key ≠ some "") :
    Choices.ofSettings (given (ε := ε) chain network key) = choices chain network key := by
  cases key with
  | none => cases chain <;> cases network <;> rfl
  | some text =>
    have kept : keyOfText text = some text := if_neg fun empty => there (congrArg some empty)
    cases chain <;> cases network <;>
      simp only [given, Choices.ofSettings, Option.toList_some, Option.toList_none, List.map_cons,
        List.map_nil, List.nil_append, List.cons_append, List.foldl_cons, List.foldl_nil,
        Choices.take, kept] <;>
      rfl

/-- A client of these settings is refused if the network is not available on the chain, or if no
executor can be made from the standard options. -/
theorem new_given {ε : Type} (connect : Connect) (chain : Option Chain) (network : Option Network)
    {key : Option String} (there : key ≠ some "") :
    Client.new connect (given (ε := ε) chain network key) =
      if chain = some .btc ∧ network = some .stn then .error (.unsupportedNetwork .btc .stn)
      else (connect ({} : Choices ε).config).map fun _ => (choices chain network key).client := by
  have config : (choices (ε := ε) chain network key).config = ({} : Choices ε).config := rfl
  rw [Client.new_eq, ofSettings_given chain network there]
  by_cases away : chain = some .btc ∧ network = some .stn
  · rw [if_pos away]
    obtain ⟨rfl, rfl⟩ := away
    rfl
  · have available : (network.getD .main).availableOn (chain.getD .bsv) = true := by
      refine Network.availableOn_iff.mpr fun pair => away ?_
      rcases chain with _ | _ <;> rcases network with _ | _ <;> simp_all
    rw [if_neg away, Choices.check_of_available available, config]
    rfl

/-- What becomes of making a client of the environment. -/
inductive Told {ε : Type} (connect : Connect) (env : Environment)
    (outcome : Except Error (Client ε)) : Prop where
  /-- The chain is looked at first. -/
  | chain (text : String) (misnamed : Misnames Chain.name env.chain text)
    (failed : outcome = .error (.invalidChain text))
  | network (chain : Option Chain) (onChain : Names Chain.name env.chain chain) (text : String)
    (misnamed : Misnames Network.name env.network text)
    (failed : outcome = .error (.invalidNetwork text))
  | read (chain : Option Chain) (network : Option Network) (key : Option String)
    (onChain : Names Chain.name env.chain chain)
    (onNetwork : Names Network.name env.network network) (keyed : Yields env.apiKey key)
    (same : outcome = Client.new connect (given chain network key))
    (unsupported : chain = some .btc ∧ network = some .stn →
      outcome = .error (.unsupportedNetwork .btc .stn))
    (made : ¬ (chain = some .btc ∧ network = some .stn) →
      outcome = (connect ({} : Choices ε).config).map fun _ => (choices chain network key).client)

end Environment

/-- A client of the environment is the client of one setting for each variable that says something.
A chain or network is the one whose name the variable says between blanks, up to the size of ASCII
letters, and what is no name is reported without the blanks, the chain before the network. The key
is kept without the blanks, too, and everything else is as in a standard client. The name of a chain
or network that is read so is read as the same one. -/
theorem Client.ofEnvironment_told {ε : Type} (connect : Connect) (env : Environment) :
    env.Told connect (ofEnvironment connect env : Except Error (Client ε)) ∧
    (∀ c : Chain, Chain.parse c.name = .ok c) ∧ ∀ n : Network, Network.parse n.name = .ok n := by
  refine ⟨?_, Chain.parse_name, Network.parse_name⟩
  unfold ofEnvironment Environment.settings
  rcases Environment.setting?_told (fun _ => Chain.parse_recognized) env.chain
      (Setting.chain (ε := ε)) with ⟨chain, onChain, found⟩ | ⟨text, misnamed, refused⟩
  · rcases Environment.setting?_told (fun _ => Network.parse_recognized) env.network
        (Setting.network (ε := ε)) with ⟨network, onNetwork, found'⟩ | ⟨text, misnamed, refused⟩
    · have keyed := Environment.yields_iff.mpr (rfl : Environment.text? env.apiKey = _)
      have there : Environment.text? env.apiKey ≠ some "" := by
        intro empty
        rw [empty] at keyed
        exact keyed.bare.1 rfl
      have settled := Environment.new_given (ε := ε) connect chain network there
      rw [found, found', Environment.setting?_apiKey]
      refine .read chain network _ onChain onNetwork keyed rfl (fun away => ?_) fun available => ?_
      · exact settled.trans (if_pos away)
      · exact settled.trans (if_neg available)
    · rw [found, refused]
      exact .network chain onChain text misnamed rfl
  · rw [refused]
    exact .chain text misnamed rfl

end ExplorerClient
