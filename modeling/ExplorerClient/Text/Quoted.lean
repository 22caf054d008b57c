import ExplorerClient.Text.Hidden

/-!
# Quoted texts

Diagnostic texts show a string between double quotes. Quotes and backslashes inside get a
backslash, the usual control characters their letter, and every other hidden character its number.
-/

namespace ExplorerClient.Text

/-- How a character is shown inside double quotes. -/
def showChar (c : Char) : List Char :=
  match c with
  | '\x22' => ['\\', '\x22']
  | '\\' => ['\\', '\\']
  | '\t' => ['\\', 't']
  | '\r' => ['\\', 'r']
  | '\n' => ['\\', 'n']
  | '\x00' => ['\\', '0']
  | c =>
    if isHidden c then ['\\', 'u', '\x7b'] ++ Nat.toDigits 16 c.toNat ++ ['\x7d'] else [c]

/-- The string between double quotes. -/
def quoted (s : String) : String :=
  String.ofList ('\x22' :: s.toList.flatMap showChar ++ ['\x22'])

example : quoted "" = "\x22\x22" := by cbv

end ExplorerClient.Text
