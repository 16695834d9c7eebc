import SourceBook.Comment.Grammar
import SourceBook.Text.Lines

namespace SourceBook.Comment

abbrev FallibleLexer := Text → State → Except Text Lexed

def LineLexer.total (lexer : LineLexer) : FallibleLexer := fun line state => .ok (lexer line state)

def lexLines (lexer : FallibleLexer) : State → List Text → Except Text (List Text)
  | _, [] => .ok []
  | state, line :: rest => do
    let lexed ← lexer line state
    return lexed.text :: (← lexLines lexer lexed.state rest)

def stripWith (lexer : FallibleLexer) (content : Text) : Except Text Text :=
  (lexLines lexer State.fresh (Text.breakLines content)).map (Text.firstBreak content).intercalate

structure Stripped where
  content : Text
  grammar : Grammar
  /-- Present when the lexer failed and the content is the file's own. -/
  warning : Option Text := none
  deriving DecidableEq, Repr

abbrev Lexers := Grammar → Option FallibleLexer

def standardLexers : Lexers := fun grammar => grammar.lexer?.map LineLexer.total

/-- When the lexer fails the file comes back untouched, never half stripped. -/
def stripBy (lexers : Lexers) (content : Text) (extension : Text) : Stripped :=
  let grammar := Grammar.ofExtension extension
  match lexers grammar with
  | none => { content, grammar }
  | some lexer =>
    match stripWith lexer content with
    | .ok stripped => { content := stripped, grammar }
    | .error message =>
      { content, grammar, warning := some (grammar.name ++ " lexer failed: ".toList ++ message) }

def strip (content : Text) (extension : Text) : Stripped := stripBy standardLexers content extension

end SourceBook.Comment
