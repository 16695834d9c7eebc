import SourceBook.Expression.Matching
import SourceBook.Glob.Fault
import SourceBook.Glob.Shortcut
import SourceBook.Glob.Translation

namespace SourceBook.Glob

def translate (pattern : Text) : Text × Bool :=
  let pattern := dropHere (shortened pattern)
  match commonShape? pattern with
  | some text => (text, false)
  | none =>
    if isSimpleName pattern then (simpleName pattern, false)
    else
      let d := draft translateEnding pattern
      (d.finish, d.negated)

/-- The whole expression of a pattern. One that is turned round matches what has no line end in it and
does not match. -/
def wholeExpression (pattern : Text) : Text :=
  let (text, negated) := translate pattern
  let source := "^(?:".toList ++ text ++ ")$".toList
  if negated then "^(?!".toList ++ source ++ ").*$".toList else source

structure Pattern where
  expression : Option Expression

def Pattern.ofText (text : Text) : Except Fault Pattern :=
  if text.isEmpty then .error .emptyPattern
  else if patternLimit < Text.width text then .error (.longPattern (Text.width text))
  else .ok ⟨Expression.ofText? (wholeExpression text)⟩

def Pattern.accepts (pattern : Pattern) (path : Text) : Bool :=
  pattern.expression.any fun e => e.accepts (Text.units path)

end SourceBook.Glob
