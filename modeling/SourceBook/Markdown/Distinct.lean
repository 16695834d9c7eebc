import SourceBook.Markdown.Heading
import SourceBook.Markdown.Pass

namespace SourceBook.Markdown

def numbered (level : Nat) (text : Text) (n : Nat) : Text :=
  List.replicate level '#' ++ ' ' :: text ++ " (".toList ++ (toString n).toList ++ [')']

/-- The lines below headings with the texts in `earlier`, every repeated heading with its number. -/
def distinguishFrom (earlier : List Text) : List (Text × LineKind) → List Text
  | [] => []
  | (line, kind) :: rest =>
    match if kind = .text then headingParts? line else none with
    | none => line :: distinguishFrom earlier rest
    | some (level, text) =>
      let n := earlier.count text
      (if n = 0 then line else numbered level text n) :: distinguishFrom (text :: earlier) rest

def distinguishHeadings (content : Text) : Text :=
  Text.unlines (distinguishFrom [] (kinded (Text.lines content)))

def distinguishPass : Pass := .total "heading disambiguation".toList distinguishHeadings

end SourceBook.Markdown
