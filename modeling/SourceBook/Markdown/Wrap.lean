import SourceBook.Markdown.Fence
import SourceBook.Text.Units

namespace SourceBook.Markdown

def wrapThreshold : Nat := 120

def wrapWidth : Nat := 118

def words (line : Text) : List Text := (line.splitOn ' ').filter fun word => !word.isEmpty

def isBareFence (text : Text) : Bool := 3 ≤ text.length && text.all (· == tick)

/-- Whether a word goes on a segment. A segment of backticks alone would read as a fence mark, so such a word
stays with the one before it, or takes the next one along. -/
def joins (width : Nat) (segment word : Text) : Bool :=
  Text.width segment + 1 + Text.width word ≤ width || isBareFence segment || isBareFence word

def fill (width : Nat) (segment : Text) : List Text → List Text
  | [] => [segment]
  | word :: rest =>
    if joins width segment word then fill width (segment ++ ' ' :: word) rest
    else segment :: fill width word rest

def wrapLine (width : Nat) (line : Text) : List Text :=
  let indent := line.takeWhile (· == ' ')
  match words line with
  | [] => [indent]
  | word :: rest => fill width (indent ++ word) rest

def isOverlong (line : Text) (kind : LineKind) : Bool :=
  kind == .code && wrapThreshold < Text.width line

def wrapCode (content : Text) : Text :=
  Text.unlines <| (kinded (Text.lines content)).flatMap fun (line, kind) =>
    if isOverlong line kind then wrapLine wrapWidth line else [line]

end SourceBook.Markdown
