import ExplorerClient.Proofs.Written

/-!
# Templates of routes

A route can be given by a template and the arguments that fill it: the template has the segments
and the names of the parameters, and a place for each argument.

Results:
* `expand_template`: the template of a route, filled with its arguments, is the route as it is
  written.
-/

namespace ExplorerClient.Route

/-! ## Pieces -/

/-- The pieces that a parameter is written with. -/
def parameterPieces (p : String × Argument) : List Segment := [.fixed p.1, .fixed "=", .arg p.2]

/-- The pieces that the parameters are written with behind the path. -/
def queryPieces : List (String × Argument) → List Segment
  | [] => []
  | p :: rest =>
    .fixed "?" :: parameterPieces p ++ rest.flatMap fun p => .fixed "&" :: parameterPieces p

/-- The pieces that a route is written with. -/
def pieces (r : Route) : List Segment :=
  (r.path.flatMap fun s => [.fixed "/", s]) ++ queryPieces r.query

/-- A piece as it stands in a template. -/
def Segment.place : Segment → String
  | .fixed text => text
  | .arg _ => "\x7b\x7d"

/-- The argument that fills a segment, if it is not one of the endpoint. -/
def Segment.argument? : Segment → Option Argument
  | .fixed _ => none
  | .arg value => some value

/-- The template of a route. -/
def template (r : Route) : String := String.join (r.pieces.map Segment.place)

/-- The arguments that fill the template of a route. -/
def arguments (r : Route) : List Argument := r.pieces.filterMap Segment.argument?

theorem intercalate_toList (separator first : String) (rest : List String) :
    (separator.intercalate (first :: rest)).toList =
      first.toList ++ rest.flatMap fun s => separator.toList ++ s.toList := by
  induction rest generalizing first with
  | nil => simp
  | cons s rest ih =>
    rw [String.intercalate_cons_cons, String.toList_append, String.toList_append, ih]
    simp

theorem queryText_toList (query : List (String × Argument)) :
    (queryText query).toList = (queryPieces query).flatMap (·.written.toList) := by
  cases query with
  | nil => rfl
  | cons p rest =>
    rw [queryText, queryPieces, String.toList_append, List.map_cons, intercalate_toList]
    · simp [parameter, parameterPieces, Segment.written, String.toList_append, List.flatMap_assoc,
        List.flatMap_map]
    · exact List.cons_ne_nil p rest

theorem text_toList (r : Route) : r.text.toList = r.pieces.flatMap (·.written.toList) := by
  rw [text, String.toList_append, queryText_toList, pieces, List.flatMap_append, List.flatMap_assoc]
  congr 1
  induction r.path with
  | nil => rfl
  | cons s rest ih => simp_all [String.toList_append, Segment.written]

/-! ## Filling a template -/

theorem ofChars_append {front : List Char} (own : '\x7b' ∉ front) (rest : List Char) :
    Template.ofChars (front ++ rest) =
      ⟨front ++ (Template.ofChars rest).first, (Template.ofChars rest).others⟩ := by
  induction front with
  | nil => rfl
  | cons c front ih =>
    simp only [List.mem_cons, not_or] at own
    rw [List.cons_append, Template.ofChars, ih own.2]
    · rfl
    · rintro tail rfl -
      exact own.1 rfl

theorem ofChars_pieces {ps : List Segment} (own : ∀ t, .fixed t ∈ ps → '\x7b' ∉ t.toList) :
    (Template.ofChars (ps.flatMap (·.place.toList))).places =
        (ps.filterMap Segment.argument?).length ∧
      (Template.ofChars (ps.flatMap (·.place.toList))).fill (ps.filterMap Segment.argument?) =
        ps.flatMap (·.written.toList) := by
  induction ps with
  | nil => exact ⟨rfl, rfl⟩
  | cons s rest ih =>
    obtain ⟨places, filled⟩ := ih fun t ht => own t (List.mem_cons_of_mem _ ht)
    rw [List.flatMap_cons, List.flatMap_cons]
    cases s with
    | fixed t =>
      rw [show Segment.place (.fixed t) = t from rfl, ofChars_append (own t (by simp)),
        ← filled]
      refine ⟨places, ?_⟩
      simp [Template.fill, List.filterMap_cons, Segment.argument?, Segment.written]
    | arg a =>
      rw [show (Segment.place (.arg a)).toList = ['\x7b', '\x7d'] by simp [Segment.place],
        ← filled]
      constructor
      · simp only [Template.places] at places
        simp [Template.ofChars, Template.places, places, Segment.argument?]
      · simp [Template.ofChars, Template.fill, Segment.argument?, Segment.written]

theorem expand_template {r : Route} (own : ∀ t, .fixed t ∈ r.pieces → '\x7b' ∉ t.toList) :
    expand r.template r.arguments = .ok r.text := by
  have parsed : Template.parse r.template =
      Template.ofChars (r.pieces.flatMap (·.place.toList)) := by
    rw [Template.parse, template, String.toList_join, List.flatMap_map]
  obtain ⟨places, filled⟩ := ofChars_pieces own
  rw [expand, parsed]
  simp only [arguments, ← places, Nat.lt_irrefl, if_false]
  rw [filled, ← text_toList, String.ofList_toList]

end ExplorerClient.Route
