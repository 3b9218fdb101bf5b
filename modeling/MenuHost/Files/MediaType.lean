import MenuHost.Files.MediaTable
import MenuHost.Files.Tree

/-!
# Media types

What a file is, by the extension of its name in any case.
-/

namespace MenuHost.Files

/-- The media type of files that nothing is known about. -/
def unknownMediaType : String := "application/octet-stream"

/-- The letters that a character is compared by. The extensions of the table are
ASCII, so that beyond ASCII only those characters matter whose letters are. -/
def foldCase (c : Char) : List Char :=
  match c with
  | 'ß' | 'ẞ' => ['s', 's']
  | 'ſ' => ['s']
  | '\u212a' => ['k']
  | 'ﬀ' => ['f', 'f']
  | 'ﬁ' => ['f', 'i']
  | 'ﬂ' => ['f', 'l']
  | 'ﬃ' => ['f', 'f', 'i']
  | 'ﬄ' => ['f', 'f', 'l']
  | 'ﬅ' | 'ﬆ' => ['s', 't']
  | c => [c.toLower]

def mediaType? (extension : String) : Option String :=
  let folded := String.ofList (extension.toList.flatMap foldCase)
  (mediaTable.find? fun entry => entry.2.contains folded).map (·.1)

def mediaTypeOf (path : Path) : String :=
  (((lastName? path).bind fun name => (splitExtension name).2).bind mediaType?).getD
    unknownMediaType

end MenuHost.Files
