/-!
# The bytes of a JSON text
-/

namespace ExplorerClient.Json

/-- Is the byte blank? Only the space, the tab, the line feed and the carriage return are. -/
def isBlank (b : UInt8) : Bool := b == 0x20 || b == 0x09 || b == 0x0a || b == 0x0d

/-- The text without the blanks in front. -/
def skipBlanks (s : List UInt8) : List UInt8 := s.dropWhile isBlank

/-- Is the byte a decimal digit? -/
def isDigit (b : UInt8) : Bool := 0x30 ≤ b && b ≤ 0x39

/-- The value of a hexadecimal digit. -/
def hexValue? (b : UInt8) : Option Nat :=
  if isDigit b then some (b.toNat - 0x30)
  else if 0x41 ≤ b && b ≤ 0x46 then some (b.toNat - 0x37)
  else if 0x61 ≤ b && b ≤ 0x66 then some (b.toNat - 0x57)
  else none

end ExplorerClient.Json
