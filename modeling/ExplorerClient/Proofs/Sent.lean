import ExplorerClient.Proofs.Course
import ExplorerClient.Proofs.Template
import ExplorerClient.Session.Script
import Mathlib.Data.List.Forall2
import Mathlib.Data.List.TakeWhile

/-!
# Where a request is sent to

The address of a request is read once more before it is sent, and reading resolves the segments
that spell one or two dots. Escaping leaves nothing else behind that reading would change.

Results:
* `parse_address`: how the address of a route is read.
-/

namespace ExplorerClient

/-! ## Paths -/

namespace Url.Path

/-- Does a segment stand for itself, rather than for the place it is at or the one above? -/
def Stays (s : List Char) : Prop := dots? s ≠ some 1 ∧ dots? s ≠ some 2

theorem stays_nil : Stays [] := ⟨by decide, by decide⟩

theorem split_append_slash {front : List Char} (hfront : '/' ∉ front) (rest : List Char) :
    Text.split '/' (front ++ '/' :: rest) = front :: Text.split '/' rest := by
  induction front with
  | nil => rw [List.nil_append, Text.split, if_pos rfl]
  | cons c front ih =>
    simp only [List.mem_cons, not_or] at hfront
    rw [List.cons_append, Text.split, if_neg (Ne.symm hfront.1), ih hfront.2]

theorem split_slashes {front : List Char} {segments : List (List Char)} (hfront : '/' ∉ front)
    (h : ∀ s ∈ segments, '/' ∉ s) :
    Text.split '/' (front ++ segments.flatMap ('/' :: ·)) = front :: segments := by
  induction segments generalizing front with
  | nil => rw [List.flatMap_nil, List.append_nil, Text.split_eq_self hfront]
  | cons s rest ih =>
    rw [List.flatMap_cons, List.cons_append, split_append_slash hfront,
      ih (h s (by simp)) fun t ht => h t (List.mem_cons_of_mem _ ht)]

theorem mem_parent {done : List (List Char)} {s : List Char} (h : s ∈ parent done) : s ∈ done := by
  cases done with
  | nil => exact h
  | cons top above =>
    rw [parent] at h
    split at h
    · exact h
    · exact List.mem_cons_of_mem _ h

theorem mem_pass {done : List (List Char)} {s t : List Char} (h : t ∈ pass done s) :
    t ∈ done ∨ t = s ∧ Stays s := by
  unfold pass at h
  split at h
  · exact Or.inl (mem_parent h)
  · exact Or.inl h
  · rename_i two one
    rcases List.mem_cons.mp h with rfl | h
    · exact Or.inr ⟨rfl, one, two⟩
    · exact Or.inl h

theorem mem_passLast {done : List (List Char)} {s t : List Char} (h : t ∈ passLast done s) :
    t ∈ done ∨ t = [] ∨ t = s ∧ Stays s := by
  unfold passLast at h
  split at h
  · rcases List.mem_cons.mp h with rfl | h
    · exact Or.inr (Or.inl rfl)
    · exact Or.inl (mem_parent h)
  · rcases List.mem_cons.mp h with rfl | h
    · exact Or.inr (Or.inl rfl)
    · exact Or.inl h
  · rename_i two one
    rcases List.mem_cons.mp h with rfl | h
    · exact Or.inr (Or.inr ⟨rfl, one, two⟩)
    · exact Or.inl h

theorem mem_resolveFrom {done path : List (List Char)} {t : List Char}
    (h : t ∈ resolveFrom done path) : t ∈ done ∨ t = [] ∨ t ∈ path ∧ Stays t := by
  induction path generalizing done with
  | nil =>
    rw [resolveFrom] at h
    exact Or.inl (List.mem_reverse.mp h)
  | cons s rest ih =>
    cases rest with
    | nil =>
      rw [resolveFrom] at h
      rcases mem_passLast (List.mem_reverse.mp h) with h | h | ⟨rfl, h⟩
      · exact Or.inl h
      · exact Or.inr (Or.inl h)
      · exact Or.inr (Or.inr ⟨by simp, h⟩)
    | cons next rest =>
      rw [resolveFrom] at h
      rcases ih h with h | h | ⟨h, stays⟩
      · rcases mem_pass h with h | ⟨rfl, h⟩
        · exact Or.inl h
        · exact Or.inr (Or.inr ⟨by simp, h⟩)
      · exact Or.inr (Or.inl h)
      · exact Or.inr (Or.inr ⟨List.mem_cons_of_mem _ h, stays⟩)

/-- What resolving leaves of a path: segments of it that stand for themselves, or nothing. -/
theorem mem_resolve {path : List (List Char)} {t : List Char} (h : t ∈ resolve path) :
    t = [] ∨ t ∈ path ∧ Stays t := by
  rcases mem_resolveFrom h with h | h
  · exact absurd h List.not_mem_nil
  · exact h

theorem resolve_eq_self_iff {path : List (List Char)} :
    resolve path = path ↔ ∀ s ∈ path, Stays s := by
  refine ⟨fun same s hs => ?_, resolve_eq_self⟩
  rw [← same] at hs
  rcases mem_resolve hs with rfl | ⟨-, stays⟩
  · exact stays_nil
  · exact stays

end Url.Path

/-! ## Routes -/

namespace Route

/-- Is the segment one of the endpoint that stands for itself, or an argument? -/
def Segment.isProper : Segment → Bool
  | .fixed text =>
    text.toList.all isVerbatim && Url.Path.dots? text.toList != some 1 &&
      Url.Path.dots? text.toList != some 2
  | .arg _ => true

/-- Are the texts that belong to the endpoint written as they are? -/
def isProper (r : Route) : Bool :=
  r.path.all Segment.isProper && r.query.all fun (name, _) => name.toList.all isVerbatim

theorem isProper_query (q : Query) : q.inquiry.route.isProper = true := by
  cases q with
  | address q | script q | block q | network q | token q | transaction q => cases q <;> rfl

theorem name_verbatim_chain (chain : Chain) : Verbatim chain.name.toList := by
  cases chain <;> decide

theorem name_verbatim_network (network : Network) : Verbatim network.name.toList := by
  cases network <;> decide

theorem segment_verbatim {r : Route} (proper : r.isProper = true) {s : Segment} (hs : s ∈ r.path) :
    Verbatim s.written.toList := by
  cases s with
  | arg a => exact written_verbatim a
  | fixed t =>
    simp only [isProper, Bool.and_eq_true, List.all_eq_true] at proper
    have own := proper.1 _ hs
    simp only [Segment.isProper, Bool.and_eq_true, List.all_eq_true] at own
    exact own.1.1

theorem parameter_verbatim {r : Route} (proper : r.isProper = true) {p : String × Argument}
    (hp : p ∈ r.query) : Verbatim (parameter p).toList := by
  simp only [isProper, Bool.and_eq_true, List.all_eq_true] at proper
  have own : Verbatim p.1.toList := proper.2 _ hp
  rw [parameter, String.toList_append, String.toList_append]
  exact (own.append (by decide)).append (written_verbatim p.2)

/-- The parameters of a query as they are written, if there are any. -/
def parameters? (r : Route) : Option (List Char) :=
  match r.query with
  | [] => none
  | p :: rest => some ("&".intercalate ((p :: rest).map parameter)).toList

theorem queryText_eq_marked (r : Route) :
    (queryText r.query).toList = Url.marked '?' r.parameters? := by
  unfold queryText parameters?
  split
  · rename_i h
    rw [h]
    rfl
  · cases h : r.query with
    | nil => contradiction
    | cons p rest => simp [Url.marked, String.toList_append]

theorem parameters_verbatim {r : Route} (proper : r.isProper = true) {cs : List Char}
    (h : r.parameters? = some cs) : Verbatim cs := by
  unfold parameters? at h
  split at h
  · cases h
  · rename_i p rest query
    cases h
    have own : ∀ p' ∈ p :: rest, Verbatim (parameter p').toList := fun p' hp =>
      parameter_verbatim proper (query ▸ hp)
    rw [List.map_cons, intercalate_toList, List.flatMap_map]
    refine (own p (by simp)).append fun c hc => ?_
    obtain ⟨p', hp, hc⟩ := List.mem_flatMap.mp hc
    rcases List.mem_append.mp hc with hc | hc
    · rw [List.mem_singleton.mp hc]
      decide
    · exact own p' (List.mem_cons_of_mem _ hp) c hc

/-- The segments of the address of a route. -/
def segments (chain : Chain) (network : Network) (r : Route) : List (List Char) :=
  "v1".toList :: chain.name.toList :: network.name.toList :: r.path.map (·.written.toList)

theorem segments_verbatim {r : Route} (proper : r.isProper = true) (chain : Chain)
    (network : Network) : ∀ s ∈ segments chain network r, Verbatim s := by
  intro s hs
  simp only [segments, List.mem_cons, List.mem_map] at hs
  rcases hs with rfl | rfl | rfl | ⟨t, ht, rfl⟩
  · decide
  · exact name_verbatim_chain chain
  · exact name_verbatim_network network
  · exact segment_verbatim proper ht

/-! ## Reading an address -/

/-- The address of a route as it is sent, with the given segments. -/
def sent (path : List (List Char)) (r : Route) : Url where
  scheme := "https".toList
  authority := some server
  target := .path path
  query := r.parameters?

theorem sent_text (path : List (List Char)) (r : Route) :
    (sent path r).text.toList = "https://api.whatsonchain.com".toList ++
      (path.flatMap ('/' :: ·) ++ Url.marked '?' r.parameters?) := by
  have place : Url.place (some server) (.path path) =
      "//api.whatsonchain.com".toList ++ path.flatMap ('/' :: ·) := rfl
  rw [Url.text, String.toList_ofList]
  simp [sent, place, Url.marked]

/-- The address of a route is the one that is sent if reading it changes nothing. -/
theorem sent_segments (chain : Chain) (network : Network) (r : Route) :
    (sent (segments chain network r) r).text = address chain network r.text := by
  have path : (String.join (r.path.map fun s => "/" ++ s.written)).toList =
      (r.path.map (·.written.toList)).flatMap ('/' :: ·) := by
    simp [String.toList_join, List.flatMap_map, String.toList_append]
  refine String.ext ?_
  rw [sent_text, address_toList, text, String.toList_append, queryText_eq_marked, path]
  simp [segments, root]

theorem counted_eq_self {cs : List Char}
    (h : ∀ c ∈ cs, Url.isMargin c = false ∧ Url.isBreak c = false) : counted cs = cs := by
  have margin : cs.reverse.dropWhile Url.isMargin = cs.reverse :=
    Text.dropWhile_eq_self fun c hc => (h c (List.mem_reverse.mp (List.mem_of_head? hc))).1
  rw [counted, margin, List.reverse_reverse]
  exact Url.unbroken_eq_self fun c hc => (h c hc).2

theorem encode_verbatim {s : List Char} (h : Verbatim s) : Url.Component.path.encode s = s :=
  Url.Component.encode_eq_self fun _ hc => ⟨(h.plain hc).small, (h.plain hc).path⟩

theorem Verbatim.inQuery {cs : List Char} (h : Verbatim cs) : ∀ c ∈ cs, Url.inQuery c = true := by
  intro c hc
  have inPlace := (h.plain hc).inPlace
  simp only [Url.inPlace, Bool.and_eq_true] at inPlace
  exact inPlace.2

theorem query?_marked {query : Option (List Char)} (own : ∀ cs ∈ query, Verbatim cs) :
    Url.query? true (Url.marked '?' query) = query := by
  cases query with
  | none => rfl
  | some cs =>
    have own := own cs rfl
    rw [Url.marked, Url.query?, List.takeWhile_eq_self_iff.mpr own.inQuery]
    exact congrArg some (Url.Component.encode_eq_self fun _ hc =>
      ⟨(own.plain hc).small, (own.plain hc).query⟩)

theorem fragment?_marked {query : Option (List Char)} (own : ∀ cs ∈ query, Verbatim cs) :
    Url.fragment? (Url.marked '?' query) = none := by
  have nothing : (Url.marked '?' query).dropWhile Url.inQuery = [] := by
    rw [List.dropWhile_eq_nil_iff]
    intro c hc
    cases query with
    | none => exact absurd hc List.not_mem_nil
    | some cs =>
      rcases List.mem_cons.mp hc with rfl | hc
      · decide
      · exact (own cs rfl).inQuery c hc
  rw [Url.fragment?, nothing]

/-- The characters of a path that are not part of a segment are slashes. -/
def PathChars (cs : List Char) : Prop := ∀ c ∈ cs, c = '/' ∨ isVerbatim c = true

theorem pathChars_slashes {path : List (List Char)} (own : ∀ s ∈ path, Verbatim s) :
    PathChars (path.flatMap ('/' :: ·)) := by
  intro c hc
  obtain ⟨s, hs, hc⟩ := List.mem_flatMap.mp hc
  rcases List.mem_cons.mp hc with rfl | hc
  · exact Or.inl rfl
  · exact Or.inr (own s hs c hc)

theorem PathChars.inPlace {cs : List Char} (h : PathChars cs) : ∀ c ∈ cs, Url.inPlace c = true := by
  intro c hc
  rcases h c hc with rfl | hc
  · decide
  · exact (plain_of_isVerbatim hc).inPlace

theorem PathChars.map_slash {cs : List Char} (h : PathChars cs) : cs.map Url.slash = cs := by
  refine (List.map_congr_left fun c hc => ?_).trans (List.map_id' _)
  rcases h c hc with rfl | hc
  · decide
  · exact if_neg (plain_of_isVerbatim hc).noBackslash

/-- Behind the root a path and a query of verbatim characters are read as they are. -/
theorem parse_root_verbatim {front : List Char} {query : Option (List Char)}
    (hfront : PathChars front) (hquery : ∀ cs ∈ query, Verbatim cs) :
    Url.parse (root ++ String.ofList (front ++ Url.marked '?' query)) = .ok {
      scheme := "https".toList
      authority := some server
      target := .ofSegments (Url.Path.ofText ("v1/".toList ++ front))
      query } := by
  have whole : counted (front ++ Url.marked '?' query) = front ++ Url.marked '?' query := by
    refine counted_eq_self fun c hc => ?_
    have known : c = '/' ∨ c = '?' ∨ isVerbatim c = true := by
      rcases List.mem_append.mp hc with hc | hc
      · exact (hfront c hc).imp id Or.inr
      · cases query with
        | none => exact absurd hc List.not_mem_nil
        | some cs => exact Or.inr ((List.mem_cons.mp hc).imp id (hquery cs rfl c))
    rcases known with rfl | rfl | h
    · exact ⟨by decide, by decide⟩
    · exact ⟨by decide, by decide⟩
    · exact ⟨(plain_of_isVerbatim h).noMargin, (plain_of_isVerbatim h).noBreak⟩
  have place : (front ++ Url.marked '?' query).takeWhile Url.inPlace = front ∧
      (front ++ Url.marked '?' query).dropWhile Url.inPlace = Url.marked '?' query := by
    rw [List.takeWhile_append_of_pos hfront.inPlace, List.dropWhile_append_of_pos hfront.inPlace]
    cases query <;> simp [Url.marked, Url.inPlace]
  rw [parse_root]
  simp only [String.toList_ofList, whole, place, hfront.map_slash]
  rw [query?_marked hquery, fragment?_marked hquery]

theorem parse_address {r : Route} (proper : r.isProper = true) (chain : Chain)
    (network : Network) :
    Url.parse (address chain network r.text) =
      .ok (sent (Url.Path.resolve (segments chain network r)) r) := by
  have own := segments_verbatim proper chain network
  let below := network.name.toList :: r.path.map (·.written.toList)
  let front := chain.name.toList ++ below.flatMap ('/' :: ·)
  have text : address chain network r.text =
      root ++ String.ofList (front ++ Url.marked '?' r.parameters?) := by
    refine String.ext ?_
    rw [← sent_segments, sent_text]
    simp [front, below, segments, root]
  have hfront : PathChars front := by
    intro c hc
    rcases List.mem_append.mp hc with hc | hc
    · exact Or.inr (name_verbatim_chain chain c hc)
    · exact pathChars_slashes (fun s hs => own s (by simp_all [segments, below])) c hc
  have path : Url.Path.ofText ("v1/".toList ++ front) =
      Url.Path.resolve (segments chain network r) := by
    have pieces : "v1/".toList ++ front =
        "v1".toList ++ (chain.name.toList :: below).flatMap ('/' :: ·) := by
      simp [front]
    rw [Url.Path.ofText, pieces, Url.Path.split_slashes (by decide)]
    · rfl
    · exact fun s hs slash => ((own s (List.mem_cons_of_mem _ hs)).plain slash).noSlash rfl
  have kept : (Url.Path.resolve (segments chain network r)).map Url.Component.path.encode =
      Url.Path.resolve (segments chain network r) := by
    refine (List.map_congr_left fun s hs => ?_).trans (List.map_id' _)
    rcases Url.Path.mem_resolve hs with rfl | ⟨hs, -⟩
    · rfl
    · exact encode_verbatim (own s hs)
  rw [text, parse_root_verbatim hfront fun cs h => parameters_verbatim proper h, path,
    Url.Target.ofSegments, kept, sent]

/-! ## Segments that are taken for dots -/

theorem percentDecode_dots {s : List Char} {n : Nat} (h : Url.Path.dots? s = some n) :
    Text.percentDecode s = List.replicate n 0x2e := by
  induction s using Url.Path.dots?.induct generalizing n with
  | case1 =>
    cases h
    rfl
  | case2 rest ih =>
    obtain ⟨m, hm, rfl⟩ := Option.map_eq_some_iff.mp h
    rw [List.replicate_succ, ← ih hm, Text.percentDecode]
    · rfl
    · intro a b tail sign
      exact absurd sign (by decide)
  | case3 rest ih | case4 rest ih =>
    obtain ⟨m, hm, rfl⟩ := Option.map_eq_some_iff.mp h
    rw [List.replicate_succ, ← ih hm]
    rfl
  | case5 s =>
    rw [Url.Path.dots?] at h
    · cases h
    all_goals simp_all

/-- Only an argument that is so many dots is written as so many dots. -/
theorem dots?_written {a : Argument} {n : Nat} (h : Url.Path.dots? a.written.toList = some n) :
    a.value = String.ofList (List.replicate n '.') := by
  refine data_toList_injective ?_
  rw [← percentDecode_written, percentDecode_dots h, toUTF8_data_toList, String.toList_ofList,
    List.flatMap_replicate, show String.utf8EncodeChar '.' = [0x2e] from rfl,
    List.flatten_replicate_singleton]

/-- Is the argument one that is taken for the place it is at, or the one above? -/
def Argument.IsDots (a : Argument) : Prop := a.value = "." ∨ a.value = ".."

theorem repr_ne_dots (n : Int) (rest : List Char) : (Int.repr n).toList ≠ '.' :: rest := by
  intro h
  rcases repr_digit (n := n) (c := '.') (by simp [h]) with h | h
  · exact absurd h (by decide)
  · exact absurd h (by decide)

theorem stays_written_iff (a : Argument) : Url.Path.Stays a.written.toList ↔ ¬ a.IsDots := by
  constructor
  · intro stays dots
    cases a with
    | text v =>
      rcases dots with rfl | rfl
      · exact stays.1 (by decide +kernel)
      · exact stays.2 (by decide +kernel)
    | number n =>
      rcases dots with h | h
      · exact repr_ne_dots n [] (by rw [show Int.repr n = "." from h]; rfl)
      · exact repr_ne_dots n ['.'] (by rw [show Int.repr n = ".." from h]; rfl)
  · intro other
    exact ⟨fun h => other (Or.inl (dots?_written h)), fun h => other (Or.inr (dots?_written h))⟩

theorem stays_segments_iff {r : Route} (proper : r.isProper = true) (chain : Chain)
    (network : Network) :
    (∀ s ∈ segments chain network r, Url.Path.Stays s) ↔ ∀ a, .arg a ∈ r.path → ¬ a.IsDots := by
  refine ⟨fun stays a ha => ?_, fun other s hs => ?_⟩
  · refine (stays_written_iff a).mp (stays _ ?_)
    simp only [segments, List.mem_cons, List.mem_map]
    exact Or.inr (Or.inr (Or.inr ⟨_, ha, rfl⟩))
  · simp only [segments, List.mem_cons, List.mem_map] at hs
    rcases hs with rfl | rfl | rfl | ⟨t, ht, rfl⟩
    · exact ⟨by decide, by decide⟩
    · cases chain <;> exact ⟨by decide, by decide⟩
    · cases network <;> exact ⟨by decide, by decide⟩
    · cases t with
      | arg a => exact (stays_written_iff a).mpr (other a ht)
      | fixed text =>
        simp only [isProper, Bool.and_eq_true, List.all_eq_true] at proper
        have own := proper.1 _ ht
        simp only [Segment.isProper, Bool.and_eq_true, bne_iff_ne] at own
        exact ⟨own.1.2, own.2⟩

/-- Is the text, as a segment of an address, the segment of the route? A segment of the endpoint is
there as it is, an argument may be escaped. -/
def Segment.SpelledBy : Segment → List Char → Prop
  | .fixed text, written => written = text.toList
  | .arg a, written => Text.percentDecode written = a.value.toUTF8.data.toList

/-- An address as it is sent, and the text it was made from, that lead to the route on the chain and
the network, and nowhere else. -/
structure Reached (chain : Chain) (network : Network) (r : Route) (text : String) (u : Url) :
    Prop where
  /-- The text is the template of the route with its places filled. -/
  expanded : ∃ path, expand r.template r.arguments = .ok path ∧ text = address chain network path
  scheme : u.scheme = "https".toList
  server : u.authority = some server
  path : ∃ own, u.target =
      .path ("v1".toList :: chain.name.toList :: network.name.toList :: own) ∧
    List.Forall₂ Segment.SpelledBy r.path own
  query : u.query = r.parameters?
  fragment : u.fragment = none
  /-- What is sent is what is recorded. -/
  recorded : u.text = text

theorem mem_queryPieces {query : List (String × Argument)}
    (own : ∀ p ∈ query, Verbatim (parameter p).toList) {t : String}
    (ht : .fixed t ∈ queryPieces query) : t = "?" ∨ Verbatim t.toList := by
  have name : ∀ p ∈ query, .fixed t ∈ parameterPieces p → Verbatim t.toList := by
    intro p hp ht
    simp only [parameterPieces, List.mem_cons, Segment.fixed.injEq, List.not_mem_nil, or_false,
      reduceCtorEq] at ht
    rcases ht with rfl | rfl
    · intro c hc
      refine own p hp c ?_
      simp [parameter, String.toList_append, hc]
    · decide
  cases query with
  | nil => exact absurd ht List.not_mem_nil
  | cons p rest =>
    rw [queryPieces] at ht
    simp only [List.cons_append, List.mem_cons, List.mem_append, List.mem_flatMap,
      Segment.fixed.injEq] at ht
    rcases ht with rfl | ht | ⟨p', hp, rfl | ht⟩
    · exact Or.inl rfl
    · exact Or.inr (name p (by simp) ht)
    · exact Or.inr (by decide)
    · exact Or.inr (name p' (List.mem_cons_of_mem _ hp) ht)

theorem own_pieces {r : Route} (proper : r.isProper = true) {t : String}
    (ht : .fixed t ∈ r.pieces) : '\x7b' ∉ t.toList := by
  have known : t = "/" ∨ t = "?" ∨ Verbatim t.toList := by
    rcases List.mem_append.mp ht with ht | ht
    · obtain ⟨s, hs, ht⟩ := List.mem_flatMap.mp ht
      rcases List.mem_cons.mp ht with ht | ht
      · exact Or.inl (Segment.fixed.inj ht)
      · obtain rfl : .fixed t = s := List.mem_singleton.mp ht
        exact Or.inr (Or.inr (segment_verbatim proper hs))
    · exact Or.inr (mem_queryPieces (fun p hp => parameter_verbatim proper hp) ht)
  intro brace
  rcases known with rfl | rfl | own
  · exact absurd brace (by decide)
  · exact absurd brace (by decide)
  · exact (own.plain brace).noBrace rfl

theorem reached_iff {r : Route} (proper : r.isProper = true) (chain : Chain) (network : Network)
    {u : Url} (read : Url.parse (address chain network r.text) = .ok u) :
    Reached chain network r (address chain network r.text) u ↔
      ∀ a, .arg a ∈ r.path → ¬ a.IsDots := by
  obtain rfl : sent (Url.Path.resolve (segments chain network r)) r = u := by
    rw [parse_address proper] at read
    exact Except.ok.inj read
  have own := segments_verbatim proper chain network
  rw [← stays_segments_iff proper chain network, ← Url.Path.resolve_eq_self_iff]
  refine ⟨fun reached => ?_, fun same => ?_⟩
  · have texts := reached.recorded
    rw [← sent_segments, ← String.toList_inj, sent_text, sent_text] at texts
    have slashes := List.append_cancel_right (List.append_cancel_left texts)
    have kept : ∀ s ∈ Url.Path.resolve (segments chain network r), '/' ∉ s := by
      intro s hs slash
      rcases Url.Path.mem_resolve hs with rfl | ⟨hs, -⟩
      · exact absurd slash List.not_mem_nil
      · exact ((own s hs).plain slash).noSlash rfl
    have split := congrArg (fun cs => Text.split '/' ([] ++ cs)) slashes
    rw [Url.Path.split_slashes List.not_mem_nil kept, Url.Path.split_slashes List.not_mem_nil
      fun s hs slash => ((own s hs).plain slash).noSlash rfl] at split
    exact (List.cons.inj split).2
  · rw [same]
    refine ⟨⟨r.text, expand_template fun t => own_pieces proper, rfl⟩, rfl, rfl,
      ⟨_, rfl, ?_⟩, rfl, rfl, sent_segments ..⟩
    rw [List.forall₂_map_right_iff]
    refine List.forall₂_same.mpr fun s hs => ?_
    cases s with
    | fixed t => rfl
    | arg a => exact percentDecode_written a

end Route

/-! ## Requests -/

/-- The requests of an operation are for its queries, in order, and each is sent to the route of its
query, with the arguments as they were given, unless an argument is one or two dots. -/
theorem Operation.asked_reached_iff {ε σ : Type} (w : Wiring ε σ) (ctx : Context) (op : Operation)
    (live : Live ε σ) :
    let run := op.course w ctx live
    let options := live.client.options
    run.asked.map (·.query) <+: op.queries ∧
    (∀ a ∈ run.asked,
      a.query.inquiry.route.Reached options.chain options.network a.url a.request.url ↔
        ∀ x, .arg x ∈ a.query.inquiry.route.path → ¬ x.IsDots) ∧
    ∀ answer after, op.call w ctx live = some (answer, after) →
      ∀ a ∈ run.asked.getLast?, after.client.last.url = a.url := by
  intro run options
  refine ⟨(op.course_follows w ctx live).1, ?_, ?_⟩
  · intro a ha
    obtain ⟨asked, made⟩ := Query.handed_ok (Plan.asked_handed w ctx op.plan live a ha)
    rw [Inquiry.url_ok asked] at made ⊢
    exact Route.reached_iff (Route.isProper_query a.query) _ _ (Client.request_ok made).2.1
  · intro answer after called a ha
    rw [← Operation.course_ended] at called
    obtain ⟨value, found, h⟩ := Option.map_eq_some_iff.mp called
    cases h
    have last := Plan.last_course w ctx op.plan live (by
      rw [show (op.plan.course w ctx live).answer = some answer from found]
      rfl)
    rw [show (op.course w ctx live).live.client.last = _ from last,
      show (op.plan.course w ctx live).asked.getLast? = some a from ha]
    rfl

/-- A request about the address of two dots is not sent to the address of its query. -/
theorem sent_above : ∃ c : Client ScriptedExecutor,
    Client.new Wiring.rehearsal.connect [.executor ⟨"x", none⟩] = .ok c ∧
    ∃ a ∈ ((Operation.query (.address (.info ".."))).course .rehearsal ⟨⟨[0]⟩, none⟩
      ⟨c, ⟨.start, {}⟩⟩).asked,
      a.url = "https://api.whatsonchain.com/v1/bsv/main/address/../info" ∧
      a.request.url.text = "https://api.whatsonchain.com/v1/bsv/main/info" ∧
      ¬ a.query.inquiry.route.Reached .bsv .main a.url a.request.url := by
  refine ⟨_, rfl, _, List.mem_singleton.mpr rfl, ?_, ?_, ?_⟩
  · decide +kernel
  · decide +kernel
  · intro reached
    exact absurd reached.recorded (by decide +kernel)

end ExplorerClient
