/-!
# Breaks

Tabs and line breaks within an address do not count. All that one can do is to part the drive of a
file from what follows it.

Results:
* `unbroken_append`: breaks are taken out piece by piece.
* `unbroken_eq_self`: a text without breaks stays as it is.
-/

namespace ExplorerClient.Url

/-- Is the character a tab or a line break? -/
def isBreak (c : Char) : Bool := c == '\t' || c == '\n' || c == '\x0d'

/-- The characters of a text that count. -/
def unbroken (cs : List Char) : List Char := cs.filter (!isBreak ·)

theorem unbroken_append (front cs : List Char) :
    unbroken (front ++ cs) = unbroken front ++ unbroken cs :=
  List.filter_append ..

theorem unbroken_eq_self {cs : List Char} (whole : ∀ c ∈ cs, isBreak c = false) :
    unbroken cs = cs := by
  simpa [unbroken] using whole

end ExplorerClient.Url
