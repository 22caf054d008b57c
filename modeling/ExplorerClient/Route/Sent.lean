import ExplorerClient.Route
import ExplorerClient.Url.Reader

/-!
# Routes as they are sent

Every address below the root of the service can be read: the server is the one of the root, and what
stands behind the root can change only the path, the query and the fragment.

Results:
* `parse_root`: how an address below the root is read.
-/

namespace ExplorerClient.Route

/-- The server of the service. -/
def server : Url.Authority := { host := .name "api.whatsonchain.com".toList }

/-- The characters that count of a text behind the root. -/
def counted (text : List Char) : List Char :=
  Url.unbroken (text.reverse.dropWhile Url.isMargin).reverse

theorem counted_root (text : List Char) :
    Url.unbroken (Text.stripEnds Url.isMargin (root.toList ++ text)) =
      root.toList ++ counted text := by
  rw [Text.stripEnds_append ⟨'h', by decide⟩ ⟨'/', by decide +kernel⟩,
    Url.unbroken_append, show Url.unbroken root.toList = root.toList from rfl, counted]

theorem read_server : Url.Authority.read "https".toList "api.whatsonchain.com".toList =
    .ok (server, []) := by
  rfl

theorem parse_root (text : String) :
    let cs := counted text.toList
    let path := "v1/".toList ++ (cs.takeWhile Url.inPlace).map Url.slash
    Url.parse (root ++ text) = .ok {
      scheme := "https".toList
      authority := some server
      target := .ofSegments (Url.Path.ofText path)
      query := Url.query? true (cs.dropWhile Url.inPlace)
      fragment := Url.fragment? (cs.dropWhile Url.inPlace) } := by
  intro cs path
  rw [Url.parse, String.toList_append]
  have parted : Url.partScheme? (Url.unbroken (Text.stripEnds Url.isMargin
      (root.toList ++ text.toList))) =
      some ("https".toList, "//api.whatsonchain.com/v1/".toList ++ cs) := by
    rw [counted_root]
    change Url.partScheme? (root.toList ++ cs) = _
    simp [Url.partScheme?, root, Url.isSchemeChar]
  have place : ("//api.whatsonchain.com/v1/".toList ++ cs).takeWhile Url.inPlace =
      "//api.whatsonchain.com/v1/".toList ++ cs.takeWhile Url.inPlace := by
    simp [Url.inPlace]
  have tail : ("//api.whatsonchain.com/v1/".toList ++ cs).dropWhile Url.inPlace =
      cs.dropWhile Url.inPlace := by
    simp [Url.inPlace]
  have slashes : (("//api.whatsonchain.com/v1/".toList ++ cs.takeWhile Url.inPlace).map
      Url.slash).dropWhile (· == '/') = "api.whatsonchain.com".toList ++ '/' :: path := by
    simp [Url.slash, path]
  have host : ("api.whatsonchain.com".toList ++ '/' :: path).takeWhile Url.inAuthority =
      "api.whatsonchain.com".toList := by
    simp [Url.inAuthority, List.takeWhile_cons]
  have behind : (("api.whatsonchain.com".toList ++ '/' :: path).dropWhile
      Url.inAuthority).drop 1 = path := by
    simp [Url.inAuthority, List.dropWhile_cons]
  have web : Url.ofWeb "https".toList (("//api.whatsonchain.com/v1/".toList ++ cs).takeWhile
      Url.inPlace) = .ok (some server, .ofSegments (Url.Path.ofText path)) := by
    have asked : Url.Authority.read "https".toList ((("//api.whatsonchain.com/v1/".toList ++
        cs.takeWhile Url.inPlace).map Url.slash).dropWhile (· == '/') |>.takeWhile
        Url.inAuthority) = .ok (server, []) := by
      rw [slashes, host, read_server]
    rw [place, Url.ofWeb_ok asked, slashes, behind]
  rw [Url.ofChars_web parted (by decide) web, tail]

end ExplorerClient.Route
