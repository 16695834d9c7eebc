import SourceBook.Markdown.Heading
import SourceBook.Markdown.Pass
import SourceBook.Markdown.Wrap

namespace SourceBook.Markdown

def defaultTitle : Text := "Source Code Export".toList

def cleanBlanks (content : Text) : Text :=
  Text.unlines <| (Text.breakLines content).map fun line =>
    Text.trimEnd (Text.replaceChar '\t' (List.replicate 4 ' ') line)

def spaceMarks (line : Text) : Text :=
  match marks line with
  | ([], _) => line
  | (signs, c :: rest) => if Text.isBlank c then line else signs ++ ' ' :: c :: rest
  | (_, []) => line

def spaceHeadingMarks (content : Text) : Text :=
  Text.unlines <| (kinded (Text.lines content)).map fun (line, kind) =>
    if kind = .text then spaceMarks line else line

/-- Puts blank lines around headings, given whether each line is one. `clear` tells that nothing
stands above, or a blank line does. -/
def spaceAround : (clear : Bool) → List (Text × Bool) → List Text
  | _, [] => []
  | _, (line, false) :: rest => line :: spaceAround line.isEmpty rest
  | clear, (line, true) :: rest =>
    let below := match rest with
      | (next, nextIsHeading) :: _ => !next.isEmpty && !nextIsHeading
      | [] => false
    (if clear then [line] else [[], line]) ++
      (if below then [] :: spaceAround true rest else spaceAround false rest)

/-- One blank line before and after every heading, except at the edges of the document and between
headings, where one stands for both. -/
def spaceHeadings (content : Text) : Text :=
  Text.unlines <| spaceAround true <| (kinded (Text.lines content)).map fun (line, kind) =>
    (line, kind = .text && isHeading line)

def collapseBlankLines (content : Text) : Text :=
  -- Reading from the right, a line feed in front of two others goes.
  content.foldr (fun c kept =>
    if c = '\n' ∧ Text.startsWith ['\n', '\n'] kept then kept else c :: kept) []

def dropTopBlank : List Text → List Text
  | line :: next :: rest =>
    if line.all fun c => c == ' ' || c == '\t' then dropTopBlank (next :: rest)
    else line :: next :: rest
  | pieces => pieces

def ensureTitle (title : Text) (content : Text) : Text :=
  let pieces := dropTopBlank (Text.lines content)
  let body := Text.unlines pieces
  let titled := match kinded pieces with
    | (line, kind) :: _ => kind = .text && isTitle line
    | [] => false
  if pieces.all Text.allBlank || titled then body else "# ".toList ++ title ++ "\n\n".toList ++ body

def endWithBreak (content : Text) : Text := Text.trimEnd content ++ ['\n']

/-- Marks come before spacing, so that a line that only becomes a heading by its space gets its blank lines
in the same run. -/
def normalizePasses : List Pass := [
  .total "whitespace cleanup".toList cleanBlanks,
  .total "heading markers".toList spaceHeadingMarks,
  .total "heading spacing".toList spaceHeadings,
  .total "blank-line collapse".toList collapseBlankLines,
  .total "top-level heading".toList (ensureTitle defaultTitle),
  .total "fenced line wrapping".toList wrapCode,
  .total "trailing newline".toList endWithBreak]

def normalize (content : Text) : Text := (runPasses normalizePasses content).content

theorem runPasses_normalizePasses (content : Text) :
    runPasses normalizePasses content =
      ⟨endWithBreak (wrapCode (ensureTitle defaultTitle (collapseBlankLines
        (spaceHeadings (spaceHeadingMarks (cleanBlanks content)))))), []⟩ := by
  simp [runPasses, normalizePasses, Pass.run, Pass.total]

end SourceBook.Markdown
