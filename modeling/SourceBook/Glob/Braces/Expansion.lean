import SourceBook.Glob.Braces.Range
import SourceBook.Glob.Braces.Tree

namespace SourceBook.Glob.Braces

abbrev Options := List (List Text)

def Options.add (options : Options) (texts : List Text) : Options :=
  match options with
  | [] => [texts]
  | last :: earlier => (last.flatMap fun text => texts.map (text ++ ·)) :: earlier

def Options.all (options : Options) : List Text := options.reverse.flatten

def rangeTexts (nodes : List Node) : List Text :=
  nodes.filterMap fun node =>
    match node with
    | .text text => some text
    | _ => none

def braceTexts (commas ranges : Nat) (literal : Bool) (nodes : List Node)
    (inner : Except Fault Options) : Except Fault (List Text) :=
  let own := '\x7b' :: writtenAll nodes ++ ['\x7d']
  if literal || nodes.isEmpty then .ok [own]
  else if 0 < ranges then
    (ofTexts (rangeTexts nodes)).map fun texts => if texts.isEmpty then [own] else texts
  else
    inner.map fun options =>
      let texts := options.all
      let texts := if commas = 0 then texts.map fun text => '\x7b' :: text ++ ['\x7d'] else texts
      if texts.isEmpty then [[]] else texts

mutual

/-- What a node adds to the options. A comma in braces starts one more, and two when it stands
first. -/
def Node.expand (inBraces first : Bool) (options : Options) : Node → Except Fault Options
  | .comma =>
    if inBraces then .ok (if first then [[]] :: [[]] :: options else [[]] :: options)
    else .ok (options.add [[',']])
  | .text text => .ok (if text.isEmpty then options else options.add [text])
  | .dot => .ok (options.add [['.']])
  | .range => .ok (options.add [['.', '.']])
  | .replaced text => .ok (options.add [text])
  | .paren nodes => expandAll false false options nodes
  | .stranded => .error .strandedParentheses
  | .brace commas ranges literal nodes =>
    (braceTexts commas ranges literal nodes (expandAll true true [] nodes)).map options.add

def expandAll (inBraces first : Bool) (options : Options) : List Node → Except Fault Options
  | [] => .ok options
  | node :: rest =>
    match node.expand inBraces first options with
    | .error fault => .error fault
    | .ok options => expandAll inBraces false options rest

end

def hasBraces (pattern : Text) : Bool := (pattern.dropWhile (· != '\x7b')).contains '\x7d'

def expand (pattern : Text) : Except Fault (List Text) :=
  if !hasBraces pattern || Text.width pattern < 3 then .ok [pattern]
  else if bracesLimit < Text.width pattern then .error (.longBraces (Text.width pattern))
  else (expandAll false false [] (nodes pattern)).map Options.all

end SourceBook.Glob.Braces
