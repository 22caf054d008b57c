import ExplorerClient.Json.Numeral
import ExplorerClient.Json.Quotation

/-!
# Reading a text into a tree

The reader goes from left to right and returns what follows the value, or nothing when it had to
stop. Its first argument bounds the number of steps; a text of `n` bytes never needs more than
`2 * n + 2` of them, since two steps in a row consume a byte.
-/

namespace ExplorerClient.Json

/-- Reads the rest of a word whose first letter has been read. -/
def readWord (tree : Tree) (word s : List UInt8) : Tree × Option (List UInt8) :=
  match word, s with
  | [], rest => (tree, some rest)
  | _ :: _, [] => (.halted (.both .truncated), none)
  | w :: word, b :: rest =>
    if b = w then readWord tree word rest else (.halted (.both .malformed), none)

/-- Reads a numeral as a tree. -/
def readNumber (s : List UInt8) : Tree × Option (List UInt8) :=
  match readNumeral s with
  | .ok (numeral, rest) => (.number numeral.value, some rest)
  | .error halt => (.halted halt, none)

mutual

/-- Reads a value. -/
def readValue : Nat → List UInt8 → Tree × Option (List UInt8)
  | 0, _ => (.halted (.both .truncated), none)
  | steps + 1, s =>
    match skipBlanks s with
    | [] => (.halted (.both .truncated), none)
    | b :: rest =>
      if b = 0x5b then
        match skipBlanks rest with
        | 0x5d :: rest => (.array [] none, some rest)
        | _ =>
          let (items, close, rest) := readItems steps rest
          (.array items close, rest)
      else if b = 0x7b then
        match skipBlanks rest with
        | 0x7d :: rest => (.object [] none, some rest)
        | _ =>
          let (members, close, rest) := readMembers steps rest
          (.object members close, rest)
      else if b = 0x22 then
        match readString {} rest with
        | .ok (text, rest) => (.text text, some rest)
        | .error halt => (.halted halt, none)
      else if b = 0x2d || isDigit b then readNumber (b :: rest)
      else if b = 0x6e then readWord .null [0x75, 0x6c, 0x6c] rest
      else if b = 0x74 then readWord (.bool true) [0x72, 0x75, 0x65] rest
      else if b = 0x66 then readWord (.bool false) [0x61, 0x6c, 0x73, 0x65] rest
      else (.halted (.both .malformed), none)

/-- Reads the values of an array, of which there is at least one, and its closing bracket. -/
def readItems : Nat → List UInt8 → List Tree × Option Halt × Option (List UInt8)
  | 0, _ => ([], some (.both .truncated), none)
  | steps + 1, s =>
    match readValue steps s with
    | (item, none) => ([item], none, none)
    | (item, some rest) =>
      match skipBlanks rest with
      | [] => ([item], some (.both .truncated), none)
      | b :: rest =>
        if b = 0x5d then ([item], none, some rest)
        else if b = 0x2c then
          let (items, close, rest) := readItems steps rest
          (item :: items, close, rest)
        else ([item], some (.both .malformed), none)

/-- Reads the members of an object, of which there is at least one, and its closing brace. -/
def readMembers : Nat → List UInt8 →
    List (Except Fault String × Tree) × Option Halt × Option (List UInt8)
  | 0, _ => ([], some (.both .truncated), none)
  | steps + 1, s =>
    match skipBlanks s with
    | [] => ([], some (.both .truncated), none)
    | b :: rest =>
      if b = 0x22 then
        match readString {} rest with
        | .error halt => ([], some halt, none)
        | .ok (name, rest) =>
          match skipBlanks rest with
          | [] => ([(name, .halted (.both .truncated))], none, none)
          | b :: rest =>
            if b = 0x3a then
              match readValue steps rest with
              | (value, none) => ([(name, value)], none, none)
              | (value, some rest) =>
                match skipBlanks rest with
                | [] => ([(name, value)], some (.both .truncated), none)
                | b :: rest =>
                  if b = 0x7d then ([(name, value)], none, some rest)
                  else if b = 0x2c then
                    let (members, close, rest) := readMembers steps rest
                    ((name, value) :: members, close, rest)
                  else ([(name, value)], some (.both .malformed), none)
            else ([(name, .halted (.both .malformed))], none, none)
      else ([], some (.both .malformed), none)

end

/-- The tree of a text, and whether only blanks follow it. -/
def read (s : List UInt8) : Tree × Bool :=
  match readValue (2 * s.length + 2) s with
  | (tree, some rest) => (tree, (skipBlanks rest).isEmpty)
  | (tree, none) => (tree, true)

end ExplorerClient.Json
