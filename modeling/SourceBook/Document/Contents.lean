import SourceBook.Text.Blank
import SourceBook.Text.LetterOrNumber
import SourceBook.Text.Lines
import SourceBook.Text.LowerCase

namespace SourceBook.Document

def slug (text : Text) : Text :=
  let kept := (Text.lowerCase (Text.trim text)).filter fun c =>
    Text.isLetterOrNumber c || Text.isBlank c || c == '_' || c == '-'
  kept.map fun c => if Text.isBlank c then '-' else c

/-- The anchors of headings below those with the slugs in `earlier`; a slug met before gets the number
of times it was met. -/
def anchorsFrom (earlier : List Text) : List Text → List Text
  | [] => []
  | text :: rest =>
    let base := slug text
    let n := earlier.count base
    (if n = 0 then base else base ++ '-' :: (toString n).toList) :: anchorsFrom (base :: earlier) rest

def anchors (texts : List Text) : List Text := anchorsFrom [] texts

def contentsLine (path anchor : Text) : Text :=
  "- [".toList ++ path ++ "](#".toList ++ anchor ++ [')']

def contents (paths : List Text) : Text :=
  Text.unlines (List.zipWith contentsLine paths (anchors paths))

end SourceBook.Document
