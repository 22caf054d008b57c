import ExplorerClient.Text.Percent

/-!
# Texts as parts of a path

A text becomes part of a path by escaping the bytes of its UTF-8 form that have a meaning of their
own there. Letters, digits and a few marks stand for themselves; every other byte is written by its
number.
-/

namespace ExplorerClient.Route

/-- Does the byte stand for itself inside a path segment (`PATH_SEGMENT`)? -/
def standsForItself (b : UInt8) : Bool :=
  (0x30 ≤ b && b ≤ 0x39) || (0x41 ≤ b && b ≤ 0x5a) || (0x61 ≤ b && b ≤ 0x7a) ||
    "-_.~$&+=:@".toList.contains (Char.ofNat b.toNat)

/-- A text as it is written inside a path segment (`escape_path_segment`). -/
def escape (s : String) : String :=
  String.ofList (Text.percentEncode standsForItself s.toUTF8.data.toList)

example : escape "" = "" := by cbv

end ExplorerClient.Route
