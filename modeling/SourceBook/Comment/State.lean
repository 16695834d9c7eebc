import SourceBook.Text.Blank

namespace SourceBook.Comment

inductive Quote where
  | none
  | single
  | double
  | tripleSingle
  | tripleDouble
  deriving DecidableEq, Repr

def Quote.spansLines : Quote → Bool
  | .tripleSingle | .tripleDouble => true
  | .none | .single | .double => false

/-- The state between two lines. Every file starts in the fresh state, so nothing passes from one
file to another. -/
structure State where
  inBlock : Bool
  quote : Quote
  deriving DecidableEq, Repr

def State.fresh : State := ⟨false, .none⟩

structure Lexed where
  text : Text
  state : State
  deriving DecidableEq, Repr

abbrev LineLexer := Text → State → Lexed

def finish (text : Text) (state : State) : Lexed :=
  -- Blanks in a literal that the next line continues belong to it.
  ⟨if state.quote.spansLines then text else Text.trimEnd text, state⟩

end SourceBook.Comment
