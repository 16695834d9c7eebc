import SourceBook.Text.Basic

namespace SourceBook.Text

/-- The lines of a document: what stands between line feeds. There is always at least one. -/
def lines (text : Text) : List Text := text.splitOn '\n'

def unlines (pieces : List Text) : Text := ['\n'].intercalate pieces

def isLineEnd (c : Char) : Bool :=
  c == '\n' || c == '\r' || c.toNat == 0x2028 || c.toNat == 0x2029

/-- Every line break becomes one line feed: a carriage return always, a line feed only where it does
not complete a carriage return. -/
def unifyBreaks (text : Text) : Text :=
  ((' ' :: text).zip text).filterMap fun (before, c) =>
    if c = '\r' then some '\n' else if c = '\n' ∧ before = '\r' then none else some c

def breakLines (text : Text) : List Text := lines (unifyBreaks text)

def firstBreak : Text → Text
  | [] => ['\n']
  | '\r' :: '\n' :: _ => ['\r', '\n']
  | c :: text => if c = '\r' ∨ c = '\n' then [c] else firstBreak text

theorem unlines_lines (text : Text) : unlines (lines text) = text :=
  List.intercalate_splitOn '\n'

theorem lines_unlines {pieces : List Text} (h : ∀ piece ∈ pieces, '\n' ∉ piece) (hne : pieces ≠ []) :
    lines (unlines pieces) = pieces :=
  List.splitOn_intercalate '\n' h hne

end SourceBook.Text
