import SourceBook.Glob.Draft.Braces
import SourceBook.Glob.Draft.Groups
import SourceBook.Glob.Draft.Sets
import SourceBook.Glob.Draft.Stars

namespace SourceBook.Glob

def hasNameOrLook : Text → Bool
  | [] => false
  | c :: rest =>
    let word := rest.takeWhile fun d => d.isAlphanum || d == '_'
    let opens := rest.head? == some '!' || rest.head? == some '=' ||
      (!word.isEmpty && rest[word.length]? == some '>')
    (c == '<' && opens) || hasNameOrLook rest

def turns : Text → Nat
  | '!' :: rest =>
    match rest with
    | '(' :: '?' :: _ => 1
    | '(' :: _ => 0
    | _ => turns rest + 1
  | _ => 0

namespace Draft

def readBackslash (d : Draft) : Draft :=
  match d.rest with
  | [] => d.pushText ['\\', '\\']
  | next :: _ =>
    if next = '/' ∨ next = '.' ∨ next = ';' then d
    else
      let run := (d.rest.takeWhile (· == '\\')).length
      let skipped := if 2 < run then run else 0
      let d := d.skip skipped
      let text := (if skipped % 2 = 1 then ['\\', '\\'] else ['\\']) ++ d.rest.take 1
      let d := d.skip 1
      if d.inSet then d.readInSet text else d.pushText text

def readQuestion (d : Draft) : Draft :=
  let last := d.last
  let opens := last.written = ['(']
  if ¬ opens ∧ d.opensGroup then d.openGroup '?'
  else if last.kind = .paren then
    let isKind := d.rest.head?.any fun c => "!=<:".toList.contains c
    let isPlain : Bool :=
      opens && !isKind || d.rest.head? == some '<' && !hasNameOrLook d.rest
    d.pushAs .text '?' (if isPlain then ['\\', '?'] else ['?'])
  else d.pushAs .unit '?' Fragment.unit

def opensExclusion (d : Draft) : Bool :=
  match d.rest with
  | '(' :: '?' :: c :: _ => !"!=<:".toList.contains c
  | '(' :: _ => true
  | _ => false

def readTurns (d : Draft) : Draft :=
  let more := turns d.rest
  let negated : Bool := more % 2 = 0
  { d.skip more with negated, start := if negated then more + 1 else more }

def readPlus (d : Draft) : Draft :=
  let last := d.last
  if d.opensGroup then d.openGroup '+'
  else if last.written = ['('] then d.pushAs .sign '+' Fragment.plus
  else if last.kind = .set ∨ last.kind = .paren ∨ last.kind = .brace ∨ 0 < d.parens then
    d.push { kind := .sign, written := ['+'] }
  else d.push { kind := .sign, written := Fragment.plus }

/-- A slash. Behind a single dot at the start it names the same folder, and both are dropped. -/
def readSlash (d : Draft) : Draft :=
  if d.last.kind = .dot ∧ d.position = d.start + 2 then
    { d with start := d.position, output := [], marks := d.marks.tail }
  else d.pushAs .slash '/' Fragment.slash

def readPlain (d : Draft) (c : Char) : Draft :=
  let front := if c = '$' ∨ c = '^' then ['\\', c] else [c]
  let more := d.rest.takeWhile fun c => !"@![].,$*+?^\x7b\x7d()|\\/".toList.contains c
  (d.skip more.length).pushText (front ++ more)

def readStar (d : Draft) : Draft :=
  if d.last.kind = .deepStar ∨ d.last.absorbs then d.absorbStar
  else if d.opensGroup ∧ 1 < d.rest.length then d.openGroup '*'
  else if d.last.kind = .star then d.secondStar
  else d.firstStar

def readSign (d : Draft) (ending : Text → Text) (c : Char) : Draft :=
  if c = '(' then d.openParen.push { kind := .paren, written := ['('] }
  else if c = ')' then d.closeParen ending
  else if c = '[' then d.openSet
  else if c = ']' then if d.inSet then d.closeSet else d.pushAs .text ']' ['\\', ']']
  else if c = '\x7b' then d.openBrace
  else if c = '\x7d' then d.closeBrace
  else if c = '|' then d.pushText ['|']
  else if c = ',' then d.readComma
  else if c = '/' then d.readSlash
  else if c = '.' then d.readDot
  else if c = '?' then d.readQuestion
  else if c = '!' ∧ d.opensExclusion then d.openGroup '!'
  else if c = '!' ∧ d.position = 1 then d.readTurns
  else if c = '+' then d.readPlus
  else if c = '@' then if d.opensGroup then d.pushAs .at '@' [] else d.pushText ['@']
  else if c = '*' then d.readStar
  else d.readPlain c

def step (ending : Text → Text) (d : Draft) (c : Char) : Draft :=
  let d := d.skip 1
  if c = '\x00' then d
  else if c = '\\' then d.readBackslash
  else if d.inSet ∧ (c ≠ ']' ∨ d.setIsEmpty) then d.readInSet [c]
  else if d.inQuotes ∧ c ≠ '"' then d.extend (Fragment.escape [c])
  else if c = '"' then { d with inQuotes := !d.inQuotes }
  else d.readSign ending c

-- Every step takes a character, so the length of the pattern is fuel enough.
def steps (ending : Text → Text) : Nat → Draft → Draft
  | 0, d => d
  | fuel + 1, d =>
    match d.rest with
    | [] => d
    | c :: _ => steps ending fuel (d.step ending c)

def settle (d : Draft) : Draft :=
  let escapeTimes (n : Nat) (c : Char) (text : Text) : Text :=
    (List.range n).foldl (fun text _ => Fragment.escapeLast c text) text
  { d with
    output := escapeTimes d.braces.length '\x7b' <| escapeTimes d.parens.toNat '(' <|
      escapeTimes d.inSet.toNat '[' d.output }

def finish (d : Draft) : Text :=
  let d := d.settle
  let d := if d.last.kind = .star ∨ d.last.kind = .set then
      d.push { kind := .finalSlash, written := [], means := some (Fragment.slash ++ ['?']) }
    else d
  if d.rebuilds then d.marks.reverse.flatMap Mark.expression else d.output

end Draft

def dropHere (pattern : Text) : Text :=
  match pattern with
  | '.' :: '/' :: rest => rest
  | _ => pattern

def shortened (pattern : Text) : Text :=
  if pattern = "***".toList then ['*']
  else if pattern = "**/**".toList ∨ pattern = "**/**/**".toList then ['*', '*']
  else pattern

def draft (ending : Text → Text) (pattern : Text) : Draft :=
  (Draft.ofPattern pattern).steps ending pattern.length

/-- The expression of an extension. It has a single dot, so no further extension stands in it. -/
def translateEnding (text : Text) : Text := (draft id text).finish

end SourceBook.Glob
