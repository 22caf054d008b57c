/-!
# Names beyond ASCII in ASCII

A name with characters beyond ASCII is written as its ASCII characters, a hyphen behind them if
there are any, and the other characters as numbers: each says how many insertions are passed over
before the next one is made, where the insertions of the least character at all places come first.
A number is written with the least digit first, to the base 36, and ends with the first digit below
a threshold that adapts to the numbers before it.

Results:
* `threshold_bounds`: each digit that does not end a number makes what is left of it smaller.
-/

namespace ExplorerClient.Url.Punycode

/-- The digit of a number below 36. -/
def digit (n : Nat) : Char :=
  if n < 26 then Char.ofNat (0x61 + n) else Char.ofNat (0x30 + (n - 26))

/-- The threshold for the digit at a place, counted in steps of 36. -/
def threshold (bias place : Nat) : Nat := min 26 (max 1 (place - bias))

theorem threshold_bounds (bias place : Nat) :
    1 ≤ threshold bias place ∧ threshold bias place ≤ 26 := by
  simp only [threshold]
  omega

/-- The digits of a number from a place on. -/
def digits (bias place n : Nat) : List Char :=
  let t := threshold bias place
  if n < t then [digit n]
  else digit (t + (n - t) % (36 - t)) :: digits bias (place + 36) ((n - t) / (36 - t))
termination_by n
decreasing_by
  have bounds := threshold_bounds bias place
  exact Nat.lt_of_le_of_lt (Nat.div_le_self _ _) (by omega)

/-- Divides by 35 until the number is small, and counts the steps of 36. -/
def shrink (n steps : Nat) : Nat × Nat :=
  if n ≤ 455 then (n, steps) else shrink (n / 35) (steps + 36)
termination_by n

/-- The bias after a number, when `written` characters have been written. -/
def adapt (n written : Nat) (first : Bool) : Nat :=
  let n := if first then n / 700 else n / 2
  let (n, steps) := shrink (n + n / written) 0
  steps + 36 * n / (n + 38)

/-- What has been written so far. -/
structure State where
  /-- The insertions passed over since the last one. -/
  passed : Nat
  bias : Nat
  /-- The number of characters written. -/
  written : Nat
  /-- The digits, the last number first. -/
  numbers : List (List Char)
  /-- Is no number written? -/
  first : Bool

/-- Passes over a place in front of a character, or inserts the character `next` there. -/
def State.visit (next : Nat) (s : State) (c : Char) : State :=
  if c.toNat < next then { s with passed := s.passed + 1 }
  else if c.toNat = next then
    { passed := 0, bias := adapt s.passed (s.written + 1) s.first, written := s.written + 1,
      numbers := digits s.bias 36 s.passed :: s.numbers, first := false }
  else s

/-- Writes the characters `next`, after all places of those from `least` on have been passed. -/
def State.round (cs : List Char) (s : State) (least next : Nat) : State :=
  let passed := { s with passed := s.passed + (next - least) * (s.written + 1) }
  let s := cs.foldl (visit next) passed
  { s with passed := s.passed + 1 }

/-- The code points beyond ASCII in a name, in order, each once. -/
def codePoints (cs : List Char) : List Nat :=
  let ordered := ((cs.map Char.toNat).filter (0x80 ≤ ·)).mergeSort
  ordered.foldr (fun n rest => if rest.head? = some n then rest else n :: rest) []

/-- A name written in ASCII. -/
def encode (cs : List Char) : List Char :=
  let ascii := cs.filter (·.toNat < 0x80)
  let start : State := ⟨0, 72, ascii.length, [], true⟩
  let done := (codePoints cs).foldl (fun (s, least) next => (s.round cs least next, next + 1))
    (start, 0x80)
  let hyphen := if ascii.isEmpty then [] else ['-']
  ascii ++ hyphen ++ done.1.numbers.reverse.flatten

end ExplorerClient.Url.Punycode
