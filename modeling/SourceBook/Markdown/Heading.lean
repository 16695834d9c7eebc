import SourceBook.Markdown.Fence

namespace SourceBook.Markdown

structure Heading where
  level : Nat
  text : Text
  line : Nat
  deriving DecidableEq, Repr

def isMark (c : Char) : Bool := c == '#'

def marks (line : Text) : Text × Text := (line.takeWhile isMark, line.dropWhile isMark)

def isHeading (line : Text) : Bool :=
  let (signs, rest) := marks line
  !signs.isEmpty && rest.head?.any Text.isBlank

def isTitle : Text → Bool
  | '#' :: c :: _ => Text.isBlank c
  | _ => false

/-- The level and the text of a heading line. A line end behind the marks and the blanks that follow
them makes the line none. -/
def headingParts? (line : Text) : Option (Nat × Text) :=
  let (signs, rest) := marks line
  let body := Text.trimStart rest
  if isHeading line ∧ !body.any Text.isLineEnd then some (signs.length, Text.trimEnd body) else none

def parseHeading? (line : Text) (index : Nat) : Option Heading :=
  (headingParts? line).map fun (level, text) => ⟨level, text, index⟩

def headings (lines : List Text) : List Heading :=
  (kinded lines).zipIdx.filterMap fun ((line, kind), index) =>
    if kind = .text then parseHeading? line index else none

end SourceBook.Markdown
