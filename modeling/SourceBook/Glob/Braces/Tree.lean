import SourceBook.Text.Basic

namespace SourceBook.Glob.Braces

inductive Node where
  | text (text : Text)
  | dot
  | range
  | comma
  | paren (nodes : List Node)
  /-- Braces with their numbers of commas and ranges. `literal` ones stand for their own text. -/
  | brace (commas ranges : Nat) (literal : Bool) (nodes : List Node)
  | replaced (text : Text)
  | stranded

mutual

def Node.written : Node → Text
  | .text text => text
  | .dot => ['.']
  | .range => ['.', '.']
  | .comma => [',']
  | .paren nodes => writtenAll nodes
  | .brace _ _ _ nodes => '\x7b' :: writtenAll nodes ++ ['\x7d']
  | .replaced text => text
  | .stranded => []

def writtenAll : List Node → Text
  | [] => []
  | node :: rest => node.written ++ writtenAll rest

end

inductive Last where
  | text
  | dot
  | range
  | other
  deriving DecidableEq

structure Frame where
  isBrace : Bool := false
  isParen : Bool := false
  nodes : List Node := []
  commas : Nat := 0
  ranges : Nat := 0
  literal : Bool := false
  dollar : Bool := false

structure Reader where
  frame : Frame := {}
  outer : List Frame := []
  last : Last := .other
  lastChar : Option Char := none

def nothingThere : Text := "undefined".toList

namespace Reader

def inBraces (r : Reader) : Bool := (r.frame :: r.outer).any Frame.isBrace

def push (r : Reader) (node : Node) (last : Last) (c : Char) : Reader :=
  { r with frame := { r.frame with nodes := node :: r.frame.nodes }, last, lastChar := some c }

def pushText (r : Reader) (text : Text) : Reader :=
  let joined := match r.last, r.frame.nodes with
    | .dot, .dot :: before => some (.text ('.' :: text) :: before)
    | .text, .text earlier :: before => some (.text (earlier ++ text) :: before)
    | .text, .paren nodes :: before => some (.paren (nodes ++ [.text text]) :: before)
    | _, _ => none
  match joined with
  | some nodes =>
    { r with
      frame := { r.frame with nodes }, last := .text
      lastChar := text.getLast?.or r.lastChar }
  | none =>
    { r with
      frame := { r.frame with nodes := .text text :: r.frame.nodes }, last := .text
      lastChar := text.getLast? }

def openBrace (r : Reader) : Reader :=
  let dollar := r.lastChar == some '$' || r.frame.dollar
  { frame := { isBrace := true, dollar }, outer := r.frame :: r.outer, lastChar := some '\x7b' }

def openParen (r : Reader) : Reader :=
  { frame := { isParen := true, nodes := [.text ['(']] }, outer := r.frame :: r.outer
    last := .text, lastChar := some '(' }

def closeBrace (r : Reader) : Reader :=
  match r.frame.isBrace, r.outer with
  | true, next :: outer =>
    let f := r.frame
    let node := Node.brace f.commas f.ranges (f.literal || f.dollar) f.nodes.reverse
    { frame := { next with nodes := node :: next.nodes }, outer, lastChar := some '\x7d' }
  | _, _ => r.pushText ['\x7d']

def closeParen (r : Reader) : Reader :=
  let r := r.pushText [')']
  match r.frame.isParen, r.outer with
  | true, next :: outer =>
    { r with frame := { next with nodes := .paren r.frame.nodes.reverse :: next.nodes }, outer }
  | _, _ => r

def comma (r : Reader) : Reader :=
  if r.inBraces then
    let f := r.frame
    let f := if 0 < f.ranges then
        { f with nodes := [.text (writtenAll f.nodes.reverse)], ranges := 0 }
      else f
    { r with frame := { f with commas := f.commas + 1 } }.push .comma .other ','
  else r.pushText [',']

/-- A dot. Two in a row are a range where one or two ends stand in front of them, and take the meaning
from the braces elsewhere; a third dot takes the range back. -/
def dot (r : Reader) : Reader :=
  let f := r.frame
  if f.isBrace ∧ f.commas = 0 then
    match r.last, f.nodes with
    | .dot, _ :: before =>
      if before.length = 1 ∨ before.length = 3 then
        { r with frame := { f with nodes := .range :: before, ranges := f.ranges + 1 }, last := .range }
      else
        { r with
          frame := { f with nodes := .text ['.', '.'] :: before, ranges := 0, literal := true }
          last := .text }
    | .range, _ :: before :: earlier =>
      let (node, last) : Node × Last := match before with
        | .text text => (.text (text ++ ['.', '.', '.']), .text)
        | .replaced text => (.replaced (text ++ ['.', '.', '.']), .other)
        | _ => (.replaced (nothingThere ++ ['.', '.', '.']), .other)
      { r with frame := { f with nodes := node :: earlier, ranges := f.ranges - 1 }, last }
    | _, _ => r.push .dot .dot '.'
  else r.pushText ['.']

def strand (node : Node) : Node :=
  match node with
  | .paren _ => .stranded
  | other => other

def finish (frame : Frame) : List Frame → List Node
  | [] => frame.nodes.reverse
  | next :: outer =>
    let nodes := if (frame :: next :: outer).any Frame.isBrace then frame.nodes.map strand else frame.nodes
    let opened := if frame.isBrace then [Node.text ['\x7b']] else []
    finish { next with nodes := nodes ++ opened ++ next.nodes } outer

end Reader

def bracketText : (depth : Nat) → Text → Text × Text
  | _, [] => ([], [])
  | _, ['\\'] => ('\\' :: nothingThere, [])
  | depth, '\\' :: c :: rest =>
    let (text, tail) := bracketText depth rest
    ('\\' :: c :: text, tail)
  | depth, c :: rest =>
    if c = ']' ∧ depth ≤ 1 then ([c], rest)
    else
      let depth := if c = '[' then depth + 1 else if c = ']' then depth - 1 else depth
      let (text, tail) := bracketText depth rest
      (c :: text, tail)

def quotedText (quote : Char) : Text → Text × Text
  | [] => ([], [])
  | ['\\'] => ('\\' :: nothingThere, [])
  | '\\' :: c :: rest =>
    let (text, tail) := quotedText quote rest
    ('\\' :: c :: text, tail)
  | c :: rest =>
    if c = quote then ([], rest)
    else
      let (text, tail) := quotedText quote rest
      (c :: text, tail)

-- The fuel is the length of the pattern.
def read : Nat → Reader → Text → Reader
  | fuel + 1, r, c :: rest =>
    -- A no-break space and a byte order mark are dropped.
    if c.toNat = 0xFEFF ∨ c.toNat = 0xA0 then read fuel r rest
    else if c = '\\' then
      match rest with
      | d :: tail => read fuel (r.pushText ['\\', d]) tail
      | [] => r.pushText ('\\' :: nothingThere)
    else if c = ']' then read fuel (r.pushText ['\\', ']']) rest
    else if c = '[' then
      let (text, tail) := bracketText 1 rest
      read fuel (r.pushText ('[' :: text)) tail
    else if c = '(' then read fuel r.openParen rest
    else if c = ')' then read fuel r.closeParen rest
    else if c = '"' ∨ c = '\'' ∨ c.toNat = 0x60 then
      let (text, tail) := quotedText c rest
      read fuel (r.pushText text) tail
    else if c = '\x7b' then read fuel r.openBrace rest
    else if c = '\x7d' then read fuel r.closeBrace rest
    else if c = ',' then read fuel r.comma rest
    else if c = '.' then read fuel r.dot rest
    else read fuel (r.pushText [c]) rest
  | _, r, _ => r

def nodes (pattern : Text) : List Node :=
  let r := read pattern.length {} pattern
  Reader.finish r.frame r.outer

end SourceBook.Glob.Braces
