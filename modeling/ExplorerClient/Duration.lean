/-!
# Durations

A duration is a whole number of nanoseconds whose seconds fit in 64 bits. Sums that would leave
this range stay at its end.

Results:
* `seconds_mul_add_subsec`: a duration is its seconds and the nanoseconds left over.
* `add_none`: adding nothing changes nothing.
-/

namespace ExplorerClient

/-- A span of time. -/
structure Duration where
  nanos : Nat
  nanos_lt : nanos < 0x10000000000000000 * 1000000000
  deriving DecidableEq

namespace Duration

/-- The longest duration. -/
def longest : Duration := ⟨0x10000000000000000 * 1000000000 - 1, by decide⟩

/-- The duration of a number of nanoseconds, or the longest one. -/
def ofNanos (n : Nat) : Duration where
  nanos := min n (0x10000000000000000 * 1000000000 - 1)
  nanos_lt := Nat.lt_of_le_of_lt (Nat.min_le_right _ _) (by decide)

/-- The duration of a number of nanoseconds, if there is one so long. -/
def ofNanos? (n : Nat) : Option Duration :=
  if h : n < 0x10000000000000000 * 1000000000 then some ⟨n, h⟩ else none

/-- The duration of a number of milliseconds, or the longest one. -/
def ofMillis (n : Nat) : Duration := ofNanos (n * 1000000)

/-- The duration of a number of seconds, or the longest one. -/
def ofSeconds (n : Nat) : Duration := ofNanos (n * 1000000000)

/-- The empty duration. -/
def zero : Duration := ⟨0, by decide⟩

/-- The whole seconds. -/
def seconds (d : Duration) : Nat := d.nanos / 1000000000

/-- The nanoseconds beyond the whole seconds. -/
def subsec (d : Duration) : Nat := d.nanos % 1000000000

/-- The sum, or the longest duration. -/
def add (a b : Duration) : Duration := ofNanos (a.nanos + b.nanos)

theorem seconds_mul_add_subsec (d : Duration) : d.seconds * 1000000000 + d.subsec = d.nanos := by
  simp only [seconds, subsec]
  omega

theorem add_none (d : Duration) : d.add (ofNanos 0) = d := by
  have h := d.nanos_lt
  obtain ⟨n, hn⟩ := d
  simp only [add, ofNanos, Duration.mk.injEq]
  omega

/-! ## Text -/

/-- The digits of `n` with zeros in front up to `width` digits, and without zeros at the end. -/
def fraction (width n : Nat) : List Char :=
  let digits := Nat.toDigits 10 n
  let padded := List.replicate (width - digits.length) '0' ++ digits
  (padded.reverse.dropWhile (· == '0')).reverse

/-- `nanos` in a unit of ten to the power `places` nanoseconds. -/
def inUnit (places nanos : Nat) (unit : String) : String :=
  let whole := Nat.repr (nanos / Nat.pow 10 places)
  let rest := fraction places (nanos % Nat.pow 10 places)
  if rest.isEmpty then whole ++ unit else whole ++ "." ++ String.ofList rest ++ unit

/-- The duration in the largest of the units second, millisecond, microsecond and nanosecond that
it reaches, without needless zeros. -/
def text (d : Duration) : String :=
  if 1000000000 ≤ d.nanos then inUnit 9 d.nanos "s"
  else if 1000000 ≤ d.nanos then inUnit 6 d.nanos "ms"
  else if 1000 ≤ d.nanos then inUnit 3 d.nanos "µs"
  else inUnit 0 d.nanos "ns"

example : zero.text = "0ns" ∧ (ofSeconds 1).text = "1s" := by decide +kernel

end Duration

end ExplorerClient
