import SourceBook.Glob.Draft
import SourceBook.Glob.Repetition

namespace SourceBook.Glob

def groupOpening (sign : Char) : Text := (if sign = '!' then "(?:(?!(?:" else "(?:").toList

def groupClosing (sign : Char) : Text :=
  if sign = '!' then "))".toList ++ Fragment.run ++ [')']
  else [')', sign]

namespace Draft

def openParen (d : Draft) : Draft := { d with parens := d.parens + 1 }.enter .paren

def leaveParen (d : Draft) : Draft := { d with parens := d.parens - 1 }.leave

def openGroup (d : Draft) (sign : Char) : Draft :=
  let group : OpenGroup :=
    { sign, place := d.position - 1, marks := d.marks.length, parens := d.parens, output := d.output }
  let kind := if sign = '*' then MarkKind.star else .sign
  let d := d.openParen.pushAs kind sign (if d.output.isEmpty then Fragment.something else [])
  let d := (d.skip 1).pushAs .paren '(' (groupOpening sign)
  { d with groups := group :: d.groups }

/-- What closes an excluded group. An extension behind it has to follow an excluded text for it to
count, which `ending` turns into an expression; where nothing follows, the whole text is excluded. -/
def exclusion (d : Draft) (ending : Text → Text) (group : OpenGroup) : Text :=
  let run := if 1 < group.inner.length ∧ group.inner.contains '/' then Fragment.deep else Fragment.run
  let isExtension : Bool := match d.rest with
    | '.' :: rest => !rest.isEmpty && rest.all fun c => c != '\\' && c != '/' && c != '.'
    | _ => false
  if group.inner.contains '*' ∧ isExtension then
    ')' :: ending d.rest ++ [')'] ++ run ++ [')']
  else if run ≠ Fragment.run ∨ d.rest.all (· == ')') then ")$))".toList ++ run
  else groupClosing '!'

def replaceGroup (d : Draft) (group : OpenGroup) (expression : Text) : Draft :=
  let later := d.marks.length - group.marks - 1
  let written := (d.pattern.take d.position).drop group.place
  match d.marks.drop later with
  | sign :: before =>
    let whole := { sign with kind := .text, written, means := some expression }
    let blank := (d.marks.take later).map fun mark => { mark with written := [], means := some [] }
    { d with
      marks := blank ++ whole :: before, output := group.output ++ expression, rebuilds := true }
  | [] => d

def repetition (d : Draft) (group : OpenGroup) : Repetition :=
  if group.sign = '+' ∨ group.sign = '*' then
    Repetition.ofBody ((d.pattern.take (d.position - 1)).drop (group.place + 2))
  else .free

def closeGroup (d : Draft) (ending : Text → Text) (group : OpenGroup) : Draft :=
  let written := (d.pattern.take d.position).drop group.place
  (match d.repetition group with
    | .literal => (d.replaceGroup group (Fragment.escape written)).pushAs .paren ')' []
    | .run output =>
      let front := if group.output.isEmpty then Fragment.something else []
      (d.replaceGroup group (front ++ output)).pushAs .paren ')' []
    | .free =>
      d.pushAs .paren ')' <|
        if group.sign = '!' then d.exclusion ending group else groupClosing group.sign).leaveParen

def closeParen (d : Draft) (ending : Text → Text) : Draft :=
  let plain (_ : Unit) :=
    (d.pushAs .paren ')' (if d.parens = 0 then ['\\', ')'] else [')'])).leaveParen
  match d.groups with
  | group :: outer =>
    if d.parens = group.parens + 1 then { d with groups := outer }.closeGroup ending group
    else plain ()
  | [] => plain ()

end Draft

end SourceBook.Glob
