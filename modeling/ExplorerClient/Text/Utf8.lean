/-!
# Reading bytes as text

Bytes are read as UTF-8. Where they are not UTF-8, each longest piece that could have begun a
character, and each byte that could not, is read as one replacement character.

Results:
* `ofBytes_toUTF8`: the bytes of a text are read as that text.
-/

namespace ExplorerClient.Text

/-- The replacement character. -/
def replacement : Char := Char.ofNat 0xfffd

/-- A character of which some bytes have been read. -/
structure Begun where
  /-- The bits of the code point read so far. -/
  value : Nat
  /-- The number of bytes still to come, one less than that. -/
  further : Nat
  /-- The least byte that may come next. -/
  low : UInt8
  /-- The greatest byte that may come next. -/
  high : UInt8

/-- Reads a byte where a character may begin. -/
def begin (b : UInt8) : Option Begun × List Char :=
  if b < 0x80 then (none, [Char.ofNat b.toNat])
  else if 0xc2 ≤ b && b ≤ 0xdf then (some ⟨b.toNat % 32, 0, 0x80, 0xbf⟩, [])
  else if 0xe0 ≤ b && b ≤ 0xef then
    let low := if b == 0xe0 then 0xa0 else 0x80
    let high := if b == 0xed then 0x9f else 0xbf
    (some ⟨b.toNat % 16, 1, low, high⟩, [])
  else if 0xf0 ≤ b && b ≤ 0xf4 then
    let low := if b == 0xf0 then 0x90 else 0x80
    let high := if b == 0xf4 then 0x8f else 0xbf
    (some ⟨b.toNat % 8, 2, low, high⟩, [])
  else (none, [replacement])

/-- Reads a byte: what has begun by now, and what has been completed or given up with this byte. -/
def step (state : Option Begun) (b : UInt8) : Option Begun × List Char :=
  match state with
  | none => begin b
  | some s =>
    if s.low ≤ b && b ≤ s.high then
      let value := s.value * 64 + b.toNat % 64
      match s.further with
      | 0 => (none, [Char.ofNat value])
      | further + 1 => (some ⟨value, further, 0x80, 0xbf⟩, [])
    else
      let (state, cs) := begin b
      (state, replacement :: cs)

/-- Reads the bytes that follow in a state. A character cut short by the end is given up. -/
def lossyFrom (state : Option Begun) : List UInt8 → List Char
  | [] => match state with
    | none => []
    | some _ => [replacement]
  | b :: rest =>
    let (next, cs) := step state b
    cs ++ lossyFrom next rest

/-- Reads bytes as characters, with replacement characters where they are not UTF-8. -/
def lossy (bytes : List UInt8) : List Char := lossyFrom none bytes

/-- Reads bytes as a text, with replacement characters where they are not UTF-8. -/
def ofBytes (bytes : ByteArray) : String :=
  match String.fromUTF8? bytes with
  | some text => text
  | none => String.ofList (lossy bytes.data.toList)

theorem fromUTF8?_toUTF8 (s : String) : String.fromUTF8? s.toUTF8 = some s := by
  rw [String.fromUTF8?, dif_pos (by simpa using s.isValidUTF8)]
  rfl

theorem ofBytes_toUTF8 (s : String) : ofBytes s.toUTF8 = s := by
  rw [ofBytes, fromUTF8?_toUTF8]

end ExplorerClient.Text
