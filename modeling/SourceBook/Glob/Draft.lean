import SourceBook.Glob.Fragment

namespace SourceBook.Glob

inductive MarkKind where
  | start
  | text
  | slash
  | dot
  | dots
  | star
  | deepStar
  | unit
  | sign
  | at
  | paren
  | brace
  | comma
  | set
  | finalSlash
  deriving DecidableEq, Repr

structure Mark where
  kind : MarkKind
  written : Text
  means : Option Text := none
  hasClass : Bool := false
  absorbs : Bool := false
  deriving DecidableEq, Repr

def Mark.expression (mark : Mark) : Text := mark.means.getD mark.written

inductive Nesting where
  | set
  | paren
  | brace
  deriving DecidableEq, Repr

structure OpenBrace where
  output : Nat
  marks : Nat
  hasComma : Bool := false
  hasDots : Bool := false

structure OpenGroup where
  sign : Char
  place : Nat
  marks : Nat
  parens : Int
  output : Text
  inner : Text := []

structure Draft where
  pattern : Text
  rest : Text
  position : Nat := 0
  start : Nat := 0
  output : Text := []
  marks : List Mark := [⟨.start, [], some [], false, false⟩]
  inSet : Bool := false
  inQuotes : Bool := false
  parens : Int := 0
  nesting : List Nesting := []
  braces : List OpenBrace := []
  groups : List OpenGroup := []
  negated : Bool := false
  rebuilds : Bool := false

namespace Draft

def ofPattern (pattern : Text) : Draft := { pattern, rest := pattern }

def last (d : Draft) : Mark := d.marks.headD ⟨.start, [], some [], false, false⟩

def alterLast (d : Draft) (f : Mark → Mark) : Draft :=
  match d.marks with
  | mark :: before => { d with marks := f mark :: before }
  | [] => d

def skip (d : Draft) (n : Nat) : Draft := { d with rest := d.rest.drop n, position := d.position + n }

def extend (d : Draft) (text : Text) : Draft :=
  { d.alterLast fun mark => { mark with written := mark.written ++ text } with
    output := d.output ++ text }

def guard (d : Draft) (expression : Text) : Draft :=
  { d.alterLast fun mark => { mark with means := some (mark.means.getD [] ++ expression) } with
    output := d.output ++ expression }

def keepsDeep (d : Draft) (next : MarkKind) : Bool :=
  match next with
  | .slash | .paren | .at => true
  | .comma | .brace => !d.braces.isEmpty
  | _ => false

def settleStar (d : Draft) (next : MarkKind) : Draft :=
  match d.marks with
  | mark :: before =>
    if mark.kind = .deepStar ∧ !d.keepsDeep next then
      let star := { mark with kind := .star, written := ['*'], means := some Fragment.run }
      { d with
        marks := star :: before
        output := Fragment.dropLast mark.expression.length d.output ++ Fragment.run }
    else d
  | [] => d

def note (d : Draft) (mark : Mark) : Draft :=
  match mark.kind, d.groups with
  | .paren, _ => d
  | _, group :: outer => { d with groups := { group with inner := group.inner ++ mark.written } :: outer }
  | _, [] => d

/-- Adds a mark. Text behind text is one mark, whose expression is what the marks before had of their
own and the text of this one. -/
def push (d : Draft) (mark : Mark) : Draft :=
  let d := (d.settleStar mark.kind).note mark
  let d := { d with output := d.output ++ mark.expression }
  match mark.kind, d.marks with
  | .text, earlier :: before =>
    if earlier.kind = .text then
      let joined := { earlier with
        written := earlier.written ++ mark.written
        means := some (earlier.means.getD [] ++ mark.written) }
      { d with marks := joined :: before }
    else { d with marks := mark :: d.marks }
  | _, _ => { d with marks := mark :: d.marks }

def pushText (d : Draft) (text : Text) : Draft := d.push { kind := .text, written := text }

def pushAs (d : Draft) (kind : MarkKind) (c : Char) (expression : Text) : Draft :=
  d.push { kind, written := [c], means := some expression }

def enter (d : Draft) (nesting : Nesting) : Draft := { d with nesting := nesting :: d.nesting }

def leave (d : Draft) : Draft := { d with nesting := d.nesting.tail }

def opensGroup (d : Draft) : Bool :=
  match d.rest with
  -- This is a group of an expression.
  | '(' :: '?' :: _ => false
  | '(' :: _ => true
  | _ => false

end Draft

end SourceBook.Glob
