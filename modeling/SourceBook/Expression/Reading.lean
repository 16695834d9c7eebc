import SourceBook.Expression.Sign

namespace SourceBook.Expression

/-- A part of an alternative. Places and looks back cannot be counted. -/
structure Part where
  expression : Expression
  countable : Bool := true

structure Level where
  bracket : Bracket
  number : Nat
  options : Option Expression := none
  parts : List Part := []

namespace Level

def push (level : Level) (part : Part) : Level := { level with parts := part :: level.parts }

def body (level : Level) : Expression :=
  let last := ofList (level.parts.reverse.map Part.expression)
  match level.options with
  | none => last
  | some options => alt options last

def endOption (level : Level) : Level := { level with options := some level.body, parts := [] }

def close (level : Level) : Part :=
  match level.bracket with
  | .plain => { expression := level.body }
  | .capture _ => { expression := group level.number level.body }
  | .look back wanted => { expression := look back wanted level.body, countable := !back }

def count? (level : Level) (bounds : Bounds) : Option Level :=
  match level.parts with
  | part :: rest =>
    if part.countable then
      some { level with parts := { expression := many bounds part.expression, countable := false } :: rest }
    else none
  | [] => none

end Level

def names? : Nat → List Sign → Option (List (Text × Nat))
  | _, [] => some []
  | count, .opening (.capture (some name)) :: rest =>
    (names? (count + 1) rest).bind fun names =>
      if (names.lookup name).isSome then none else some ((name, count + 1) :: names)
  | count, .opening (.capture none) :: rest => names? (count + 1) rest
  | count, _ :: rest => names? count rest

def part? (names : List (Text × Nat)) : Sign → Option Part
  | .one set => some { expression := .one set }
  | .start => some { expression := .start, countable := false }
  | .finish => some { expression := .finish, countable := false }
  | .edge wanted => some { expression := .edge wanted, countable := false }
  | .again number => some { expression := .again number }
  | .againNamed name => (names.lookup name).map fun number => { expression := .again number }
  | _ => none

/-- Reads signs, given the number of remembered groups so far and the open brackets, innermost
first. -/
def build (names : List (Text × Nat)) : Nat → Level → List Level → List Sign → Option Expression
  | _, level, [], [] => some level.body
  | _, _, _ :: _, [] => none
  | count, level, outer, .bar :: rest => build names count level.endOption outer rest
  | count, level, outer, .opening bracket :: rest =>
    match bracket with
    | .capture _ => build names (count + 1) { bracket, number := count + 1 } (level :: outer) rest
    | _ => build names count { bracket, number := 0 } (level :: outer) rest
  | _, _, [], .closing :: _ => none
  | count, level, next :: outer, .closing :: rest =>
    build names count (next.push level.close) outer rest
  | count, level, outer, .count bounds :: rest =>
    (level.count? bounds).bind fun level => build names count level outer rest
  | count, level, outer, sign :: rest =>
    (part? names sign).bind fun part => build names count (level.push part) outer rest

def ofText? (text : Text) : Option Expression := do
  let signs ← signs? (Census.take {} false text) text.length text
  let names ← names? 0 signs
  build names 0 { bracket := .plain, number := 0 } [] signs

end SourceBook.Expression
