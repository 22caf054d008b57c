/-!
# Blank characters, trimming and letter case

A character is blank when Unicode gives it the `White_Space` property. Trimming removes blanks
from the two ends of a text and leaves the inside alone. Names are compared in small letters,
where only the ASCII capitals are turned.

Results:
* `stripEnds_eq_self`: nothing is removed where neither end is to be removed.
* `stripEnds_append`: behind a text that stays, only the end is removed.
-/

namespace ExplorerClient.Text

/-- Has the character the Unicode property `White_Space`? -/
def isBlank (c : Char) : Bool :=
  let n := c.toNat
  (0x09 ≤ n && n ≤ 0x0d) || n == 0x20 || n == 0x85 || n == 0xa0 || n == 0x1680 ||
    (0x2000 ≤ n && n ≤ 0x200a) || n == 0x2028 || n == 0x2029 || n == 0x202f || n == 0x205f ||
    n == 0x3000

/-- Removes the longest runs of elements satisfying `p` at the start and at the end of `cs`. -/
def stripEnds (p : Char → Bool) (cs : List Char) : List Char :=
  ((cs.dropWhile p).reverse.dropWhile p).reverse

/-- The text without the blanks at its two ends. -/
def trim (s : String) : String :=
  String.ofList (stripEnds isBlank s.toList)

/-- The text without the double quotes at its two ends. -/
def unquote (s : String) : String :=
  String.ofList (stripEnds (· == '"') s.toList)

/-- The text with its ASCII capitals turned into small letters. -/
def lowercase (s : String) : String :=
  String.ofList (s.toList.map Char.toLower)

theorem dropWhile_eq_self {p : Char → Bool} {cs : List Char} (first : ∀ c ∈ cs.head?, p c = false) :
    cs.dropWhile p = cs := by
  cases cs with
  | nil => rfl
  | cons c rest => rw [List.dropWhile, first c rfl]

theorem stripEnds_eq_self {p : Char → Bool} {cs : List Char}
    (first : ∀ c ∈ cs.head?, p c = false) (last : ∀ c ∈ cs.getLast?, p c = false) :
    stripEnds p cs = cs := by
  have last : ∀ c ∈ cs.reverse.head?, p c = false := by rwa [List.head?_reverse]
  rw [stripEnds, dropWhile_eq_self first, dropWhile_eq_self last, List.reverse_reverse]

theorem stripEnds_append {p : Char → Bool} {front : List Char}
    (first : ∃ c, front.head? = some c ∧ p c = false)
    (last : ∃ c, front.getLast? = some c ∧ p c = false) (cs : List Char) :
    stripEnds p (front ++ cs) = front ++ (cs.reverse.dropWhile p).reverse := by
  obtain ⟨c, hc, first⟩ := first
  obtain ⟨d, hd, last⟩ := last
  have start : (front ++ cs).dropWhile p = front ++ cs := dropWhile_eq_self fun x hx => by
    rw [List.head?_append, hc] at hx
    obtain rfl : c = x := by simpa only [Option.some_or, Option.mem_def, Option.some.injEq] using hx
    exact first
  have stop : front.reverse.dropWhile p = front.reverse := dropWhile_eq_self fun x hx => by
    rw [List.head?_reverse, hd] at hx
    obtain rfl : d = x := by simpa only [Option.mem_def, Option.some.injEq] using hx
    exact last
  rw [stripEnds, start, List.reverse_append, List.dropWhile_append]
  split
  · rename_i empty
    rw [stop, List.isEmpty_iff.1 empty, List.reverse_reverse, List.reverse_nil, List.append_nil]
  · rw [List.reverse_append, List.reverse_reverse]

end ExplorerClient.Text
