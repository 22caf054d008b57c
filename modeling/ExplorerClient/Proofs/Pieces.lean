import ExplorerClient.Endpoint.Operation

/-!
# The pieces of a list

A list is cut from its front into pieces of one size, of which only the last may be shorter. So a
list of no more than that size is a single piece, and a list that can be cut without a rest may be
cut apart from what follows it.

Results:
* `pieces_of_ne_nil`: how a list is cut.
* `pieces_lengths`: how long the pieces are.
* `pieces_append`: cutting a list whose length is a multiple of the size, and what follows it.
-/

namespace ExplorerClient

variable {α : Type} {size : Nat} {xs : List α}

theorem pieces_of_ne_nil (positive : 0 < size) (there : xs ≠ []) :
    pieces size xs = xs.take size :: pieces size (xs.drop size) := by
  obtain ⟨n, rfl⟩ : ∃ n, size = n + 1 := ⟨size - 1, by omega⟩
  cases xs with
  | nil => exact absurd rfl there
  | cons x xs =>
    rw [pieces]
    rfl

theorem pieces_of_length_le (there : xs ≠ []) (short : xs.length ≤ size) :
    pieces size xs = [xs] := by
  have positive : 0 < size := Nat.lt_of_lt_of_le (List.length_pos_iff.mpr there) short
  rw [pieces_of_ne_nil positive there, List.take_of_length_le short,
    List.drop_eq_nil_of_le short, pieces]

/-- Each piece has between one and `size` elements, and exactly `size` unless it is the last. -/
theorem pieces_lengths (positive : 0 < size) {p : List α} {front back : List (List α)}
    (split : pieces size xs = front ++ p :: back) :
    1 ≤ p.length ∧ p.length ≤ size ∧ (back ≠ [] → p.length = size) := by
  have there : xs ≠ [] := by
    rintro rfl
    simp [pieces] at split
  have some_there : 0 < xs.length := List.length_pos_iff.mpr there
  rw [pieces_of_ne_nil positive there] at split
  induction front generalizing xs with
  | nil =>
    obtain ⟨rfl, rest⟩ := List.cons.inj split
    have taken : (xs.take size).length = min size xs.length := List.length_take
    refine ⟨by omega, by omega, fun more => ?_⟩
    have long : ¬ xs.length ≤ size := fun short => more (by
      rw [← rest, List.drop_eq_nil_of_le short, pieces])
    omega
  | cons q front ih =>
    have rest : pieces size (xs.drop size) = front ++ p :: back := (List.cons.inj split).2
    have more : xs.drop size ≠ [] := by
      intro done
      rw [done] at rest
      simp [pieces] at rest
    rw [pieces_of_ne_nil positive more] at rest
    exact ih rest more (List.length_pos_iff.mpr more)

theorem pieces_append (positive : 0 < size) (even : size ∣ xs.length) (ys : List α) :
    pieces size (xs ++ ys) = pieces size xs ++ pieces size ys := by
  obtain ⟨k, count⟩ := even
  induction k generalizing xs with
  | zero =>
    obtain rfl : xs = [] := List.eq_nil_of_length_eq_zero count
    simp [pieces]
  | succ k ih =>
    rw [Nat.mul_succ] at count
    have there : xs ≠ [] := List.length_pos_iff.mp (by omega)
    have both : xs ++ ys ≠ [] := List.append_ne_nil_of_left_ne_nil there ys
    have enough : size ≤ xs.length := by omega
    have rest : (xs.drop size).length = size * k := by
      rw [List.length_drop]
      omega
    rw [pieces_of_ne_nil positive both, pieces_of_ne_nil positive there,
      List.take_append_of_le_length enough, List.drop_append_of_le_length enough, ih rest]
    rfl

end ExplorerClient
