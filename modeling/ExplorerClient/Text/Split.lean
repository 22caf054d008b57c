/-!
# The pieces of a text between separators

Results:
* `intercalate_split`: with the separators between them the pieces make up the text again.
* `not_mem_of_mem_split`: no piece holds a separator.
* `split_eq_self`: a text without a separator is one piece.
-/

namespace ExplorerClient.Text

/-- The pieces of a text between the separators. There is always at least one. -/
def split (separator : Char) : List Char → List (List Char)
  | [] => [[]]
  | c :: rest =>
    if c = separator then [] :: split separator rest
    else match split separator rest with
      | first :: others => (c :: first) :: others
      | [] => [[c]]

theorem split_ne_nil (separator : Char) (cs : List Char) : split separator cs ≠ [] := by
  fun_cases split separator cs <;> simp_all

theorem intercalate_split (separator : Char) (cs : List Char) :
    [separator].intercalate (split separator cs) = cs := by
  induction cs with
  | nil => rfl
  | cons c rest ih =>
    rw [split]
    split
    · rename_i h
      subst h
      cases pieces : split c rest with
      | nil => exact absurd pieces (split_ne_nil c rest)
      | cons first others =>
        rw [pieces] at ih
        simp only [List.intercalate, List.intersperse_cons_cons, List.flatten_cons, List.nil_append,
          List.singleton_append] at ih ⊢
        rw [ih]
    · cases pieces : split separator rest with
      | nil => exact absurd pieces (split_ne_nil separator rest)
      | cons first others =>
        rw [pieces] at ih
        cases others <;> simp_all [List.intercalate]

theorem not_mem_of_mem_split {separator : Char} {cs piece : List Char}
    (h : piece ∈ split separator cs) : separator ∉ piece := by
  induction cs generalizing piece with
  | nil => simp_all [split]
  | cons c rest ih =>
    rw [split] at h
    split at h
    · rcases List.mem_cons.1 h with rfl | h
      · simp
      · exact ih h
    · rename_i differs
      cases pieces : split separator rest with
      | nil => exact absurd pieces (split_ne_nil separator rest)
      | cons first others =>
        rw [pieces] at h
        rcases List.mem_cons.1 h with rfl | h
        · simp only [List.mem_cons, not_or]
          exact ⟨fun h => differs h.symm, ih (by simp [pieces])⟩
        · exact ih (by simp [pieces, h])

theorem split_eq_self {separator : Char} {cs : List Char} (h : separator ∉ cs) :
    split separator cs = [cs] := by
  induction cs with
  | nil => rfl
  | cons c rest ih =>
    simp only [List.mem_cons, not_or] at h
    rw [split, if_neg (Ne.symm h.1), ih h.2]

end ExplorerClient.Text
