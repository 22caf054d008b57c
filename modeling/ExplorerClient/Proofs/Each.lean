import ExplorerClient.Proofs.Course
import Mathlib.Data.List.Forall2

/-!
# The same for every element of a list

What is done for the elements of a list, one after the other, ends at the first element for which it
fails or never comes to an end. Until then each element finds the client and the world as the one
before it has left them.

Results:
* `Plan.map_course`: a plan with another value has the same course.
* `Plan.each_append`: what is done for two lists in a row is done for the first and then the second.
* `Plan.each_ends`: how a plan for every element of a list ends, and what it has asked by then.
-/

namespace ExplorerClient

variable {ε σ α β γ : Type}

/-! ## Courses with another value -/

namespace Course

/-- A course with another value. -/
def map (f : α → β) (c : Course ε σ α) : Course ε σ β := ⟨c.asked, c.answer.map (·.map f), c.live⟩

theorem map_ended (c : Course ε σ α) (f : α → β) :
    (c.map f).ended = c.ended.map fun (answer, live) => (answer.map f, live) := by
  obtain ⟨asked, answer, live⟩ := c
  rcases answer with _ | _ | _ <;> rfl

theorem map_nil_append (c : Course ε σ (List α)) : c.map ([] ++ ·) = c := by
  obtain ⟨asked, answer, live⟩ := c
  rcases answer with _ | _ | _ <;> rfl

theorem map_map (c : Course ε σ α) (f : α → β) (g : β → γ) :
    (c.map f).map g = c.map fun a => g (f a) := by
  obtain ⟨asked, answer, live⟩ := c
  rcases answer with _ | _ | _ <;> rfl

theorem map_andThen (c : Course ε σ α) (f : α → β) (next : β → Live ε σ → Course ε σ γ) :
    (c.map f).andThen next = c.andThen fun a => next (f a) := by
  obtain ⟨asked, answer, live⟩ := c
  rcases answer with _ | _ | _ <;> rfl

theorem andThen_map (c : Course ε σ α) (next : α → Live ε σ → Course ε σ β) (f : β → γ) :
    (c.andThen next).map f = c.andThen fun a live => (next a live).map f := by
  obtain ⟨asked, answer, live⟩ := c
  rcases answer with _ | _ | _ <;> rfl

theorem andThen_assoc (c : Course ε σ α) (first : α → Live ε σ → Course ε σ β)
    (second : β → Live ε σ → Course ε σ γ) :
    (c.andThen first).andThen second = c.andThen fun a live => (first a live).andThen second := by
  obtain ⟨asked, answer, live⟩ := c
  rcases answer with _ | _ | a
  · rfl
  · rfl
  · simp only [andThen]
    rcases (first a live).answer with _ | _ | _ <;> simp

end Course

/-! ## Lists -/

namespace Plan

variable {w : Wiring ε σ} {ctx : Context}

theorem map_course (p : Plan α) (f : α → β) (live : Live ε σ) :
    (p.map f).course w ctx live = (p.course w ctx live).map f := by
  rw [map, course]
  cases p.course w ctx live with
  | mk asked answer after =>
    rcases answer with _ | _ | a
    · rfl
    · rfl
    · simp [Course.andThen, Course.map, course, Except.map]

theorem each_cons (p : α → Plan (List β)) (x : α) (xs : List α) (live : Live ε σ) :
    (each p (x :: xs)).course w ctx live = ((p x).course w ctx live).andThen fun found live =>
      ((each p xs).course w ctx live).map (found ++ ·) := by
  rw [each, course]
  simp only [map_course]

theorem each_append (p : α → Plan (List β)) (xs ys : List α) (live : Live ε σ) :
    (each p (xs ++ ys)).course w ctx live =
      ((each p xs).course w ctx live).andThen fun found live =>
        ((each p ys).course w ctx live).map (found ++ ·) := by
  induction xs generalizing live with
  | nil =>
    have all := (Course.map_nil_append ((each p ys).course w ctx live)).symm
    rw [List.nil_append, all]
    simp [each, course, Course.andThen]
  | cons x xs ih =>
    rw [List.cons_append, each_cons, each_cons, Course.andThen_assoc]
    simp only [ih, Course.andThen_map, Course.map_andThen, Course.map_map, List.append_assoc]

end Plan

/-! ## How a row ends -/

/-- Done for the elements of a list in order, something has found these values, one for each. -/
inductive Found (call : α → Call ε σ β) : Live ε σ → List α → List β → Live ε σ → Prop where
  | nil (live : Live ε σ) : Found call live [] [] live
  | cons {live middle after : Live ε σ} {x : α} {y : β} {xs : List α} {ys : List β}
    (first : call x live = some (.ok y, middle)) (rest : Found call middle xs ys after) :
    Found call live (x :: xs) (y :: ys) after

/-- How something that is done for the elements of a list in order ends, if it has been tried for
some of them and others are left. -/
inductive Ends (call : α → Call ε σ (List β)) (live : Live ε σ) (tried left : List α)
    (outcome : Option (Except Error (List β) × Live ε σ)) : Prop where
  /-- It has found something for all of them. -/
  | found (values : List (List β)) (after : Live ε σ) (all : Found call live tried values after)
    (none_left : left = []) (came : outcome = some (.ok values.flatten, after))
  /-- It has failed for the last one that it was tried for. -/
  | failed (front : List α) (last : α) (values : List (List β)) (middle : Live ε σ) (e : Error)
    (after : Live ε σ) (split : tried = front ++ [last])
    (before : Found call live front values middle)
    (fails : call last middle = some (.error e, after)) (came : outcome = some (.error e, after))
  /-- It never comes to an end for the last one that it was tried for. -/
  | endless (front : List α) (last : α) (values : List (List β)) (middle : Live ε σ)
    (split : tried = front ++ [last]) (before : Found call live front values middle)
    (hangs : call last middle = none) (came : outcome = none)

theorem Ends.cons {call : α → Call ε σ (List β)} {live middle : Live ε σ} {x : α} {y : List β}
    {tried left : List α} {outcome : Option (Except Error (List β) × Live ε σ)}
    (first : call x live = some (.ok y, middle)) (h : Ends call middle tried left outcome) :
    Ends call live (x :: tried) left (outcome.map fun (a, live) => (a.map (y ++ ·), live)) := by
  cases h with
  | found values after all none_left came =>
    refine .found (y :: values) after (.cons first all) none_left ?_
    rw [came]
    rfl
  | failed front last values middle' e after split before fails came =>
    refine .failed (x :: front) last (y :: values) middle' e after ?_ (.cons first before) fails ?_
    · rw [split]
      rfl
    · rw [came]
      rfl
  | endless front last values middle' split before hangs came =>
    refine .endless (x :: front) last (y :: values) middle' ?_ (.cons first before) hangs ?_
    · rw [split]
      rfl
    · rw [came]
      rfl

/-- What is asked by a plan for every element of a list, and how it ends, if the plan for one
element always asks exactly one thing of a client with these options. -/
theorem Plan.each_ends {w : Wiring ε σ} {ctx : Context} {p : α → Plan (List β)}
    {About : Asked → α → Prop} {options : Options} {xs : List α}
    (one : ∀ x ∈ xs, ∀ live : Live ε σ, live.client.options = options →
      ∃ a, ((p x).course w ctx live).asked = [a] ∧ About a x)
    (live : Live ε σ) (same : live.client.options = options) :
    ∃ tried left, xs = tried ++ left ∧
      List.Forall₂ About ((each p xs).course w ctx live).asked tried ∧
      Ends (fun x => (p x).call w ctx) live tried left ((each p xs).call w ctx live) := by
  -- each element starts from where the one before it has left the client and the world
  induction xs generalizing live with
  | nil => exact ⟨[], [], rfl, .nil, .found [] live (.nil live) rfl rfl⟩
  | cons x xs ih =>
    obtain ⟨a, asks, about⟩ := one x (by simp) live same
    rw [← course_ended, each_cons]
    have called : (p x).call w ctx live = ((p x).course w ctx live).answer.map
        (·, ((p x).course w ctx live).live) := ((p x).course_ended w ctx live).symm
    cases answered : ((p x).course w ctx live).answer with
    | none =>
      rw [answered] at called
      refine ⟨[x], xs, rfl, ?_, .endless [] x [] live rfl (.nil live) called ?_⟩
      · simpa [Course.andThen, answered, asks] using about
      · simp [Course.andThen, Course.ended, answered]
    | some answer =>
      rw [answered] at called
      cases answer with
      | error e =>
        refine ⟨[x], xs, rfl, ?_, .failed [] x [] live e _ rfl (.nil live) called ?_⟩
        · simpa [Course.andThen, answered, asks] using about
        · simp [Course.andThen, Course.ended, answered]
      | ok found =>
        have kept : ((p x).course w ctx live).live.client.options = options := by
          rw [course_client]
          exact same
        obtain ⟨tried, left, split, asked, ends⟩ :=
          ih (fun y hy => one y (by simp [hy])) _ kept
        refine ⟨x :: tried, left, by rw [split]; rfl, ?_, ?_⟩
        · simpa [Course.andThen, answered, asks, Course.map] using ⟨about, asked⟩
        · have more := ends.cons called
          rw [← course_ended] at more
          convert more using 1
          simp only [Course.andThen, answered, Course.ended, Course.map, Option.map_map]
          rfl

end ExplorerClient
