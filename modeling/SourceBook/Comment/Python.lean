import SourceBook.Comment.State

namespace SourceBook.Comment.Python

def delimiter : Quote → Text
  | .none => []
  | .single => ['\'']
  | .double => ['"']
  | .tripleSingle => ['\'', '\'', '\'']
  | .tripleDouble => ['"', '"', '"']

def opening (rest : Text) : Quote :=
  ([.tripleDouble, .tripleSingle, .double, .single].find? fun quote =>
    Text.startsWith (delimiter quote) rest).getD .none

def scan : Quote → Nat → (kept : Text) → Text → Text × Quote
  | quote, _, kept, [] => (kept.reverse, quote)
  -- What is left of a delimiter or an escape is kept unread.
  | quote, copy + 1, kept, c :: rest => scan quote copy (c :: kept) rest
  | .none, 0, kept, c :: rest =>
    match opening (c :: rest) with
    | .none => if c = '#' then (kept.reverse, .none) else scan .none 0 (c :: kept) rest
    | quote => scan quote ((delimiter quote).length - 1) (c :: kept) rest
  | quote, 0, kept, c :: rest =>
    if c = '\\' then scan quote 1 (c :: kept) rest
    else if Text.startsWith (delimiter quote) (c :: rest) then
      scan .none ((delimiter quote).length - 1) (c :: kept) rest
    else scan quote 0 (c :: kept) rest

def carried (quote : Quote) : Quote := if quote.spansLines then quote else .none

def lexLine : LineLexer := fun line state =>
  let (text, quote) := scan (carried state.quote) 0 [] line
  finish text ⟨false, carried quote⟩

end SourceBook.Comment.Python
