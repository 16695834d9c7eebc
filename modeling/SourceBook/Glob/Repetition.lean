import SourceBook.Glob.Fragment
import SourceBook.Text.Blank
import SourceBook.Text.Lines
import SourceBook.Text.Units

namespace SourceBook.Glob

inductive Repetition where
  | free
  | literal
  | run (output : Text)
  deriving DecidableEq, Repr

namespace Repetition

def options (sets parens : Nat) (quoted : Bool) (current : Text) : Text → List Text
  | [] => [current]
  | ['\\'] => [current ++ ['\\']]
  | '\\' :: c :: rest => options sets parens quoted (current ++ ['\\', c]) rest
  | c :: rest =>
    if c = '"' then options sets parens (!quoted) (current ++ [c]) rest
    else if quoted then options sets parens quoted (current ++ [c]) rest
    else if c = '[' then options (sets + 1) parens quoted (current ++ [c]) rest
    else if 0 < sets then
      options (if c = ']' then sets - 1 else sets) parens quoted (current ++ [c]) rest
    else if c = '|' ∧ parens = 0 then current :: options 0 0 false [] rest
    else
      let parens := if c = '(' then parens + 1 else if c = ')' then parens - 1 else parens
      options sets parens quoted (current ++ [c]) rest

def trimmedOptions (body : Text) : List Text := (options 0 0 false [] body).map Text.trim

def closed? (sets parens : Nat) (quoted : Bool) : Text → Option (Text × Text)
  | [] => none
  | '\\' :: c :: rest =>
    (closed? sets parens quoted rest).map fun (body, tail) => ('\\' :: c :: body, tail)
  | c :: rest =>
    let next (sets parens : Nat) (quoted : Bool) :=
      (closed? sets parens quoted rest).map fun (body, tail) => (c :: body, tail)
    if c = '"' then next sets parens (!quoted)
    else if quoted then next sets parens quoted
    else if c = '[' then next (sets + 1) parens quoted
    else if 0 < sets then next (if c = ']' then sets - 1 else sets) parens quoted
    else if c = '(' then next sets (parens + 1) quoted
    else if c = ')' then if parens = 0 then some ([], rest) else next sets (parens - 1) quoted
    else next sets parens quoted

def group? : Text → Option (Char × Text × Text)
  | sign :: '(' :: rest =>
    if sign = '+' ∨ sign = '*' then (closed? 0 0 false rest).map fun found => (sign, found) else none
  | _ => none

def isPlain : Text → Bool
  | '\\' :: _ :: rest => isPlain rest
  | c :: rest => !"?*+@!()[]\x7b\x7d".toList.contains c && isPlain rest
  | [] => true

def unescape : Text → Text
  | '\\' :: c :: rest => if Text.isLineEnd c then '\\' :: c :: unescape rest else c :: unescape rest
  | c :: rest => c :: unescape rest
  | [] => []

def unwrap (option : Text) : Text :=
  match option with
  | '@' :: '(' :: rest =>
    let body := rest.dropLast
    if rest.getLast? = some ')' ∧ !body.isEmpty ∧
        !(body.any fun c => "\\()[]\x7b\x7d|".toList.contains c) then body
    else option
  | _ => option

def plainText? (option : Text) : Option Text :=
  let text := unwrap (Text.trim option)
  if isPlain text then some (unescape text) else none

def shareRun : List Text → Bool
  | [] => false
  | text :: rest =>
    (match text with
      | c :: _ => Text.charWidth c == 1 && text.all (· == c) && rest.any fun other => other.all (· == c)
      | [] => false) || shareRun rest

def starredChars : Nat → Text → Option (List Char)
  | _, [] => some []
  | 0, _ => none
  | fuel + 1, text =>
    match group? text with
    | some ('*', body, tail) =>
      match (trimmedOptions body).map plainText? with
      | [some [c]] => if Text.charWidth c = 1 then (starredChars fuel tail).map (c :: ·) else none
      | _ => none
    | _ => none

def starredRun? (option : Text) : Option Text :=
  match starredChars option.length option with
  | some [] => none
  | some [c] => some (Fragment.escape [c] ++ ['*'])
  | some cs => some ('[' :: Fragment.escape cs ++ "]*".toList)
  | none => none

def isRepeated (text : Text) : Bool :=
  match group? (Text.trim text) with
  | some (_, _, tail) => tail.isEmpty
  | none => false

def ofOptions : List Text → Repetition
  | [] => free
  | option :: rest =>
    match starredRun? option with
    | some output => run output
    | none => if isRepeated option then literal else ofOptions rest

def overlap (options : List Text) : Bool :=
  options.any (·.isEmpty) ||
    options.any (fun option => option.all fun c => c == '*' || c == '?') ||
    shareRun ((options.filterMap plainText?).filter fun text => !text.isEmpty)

def ofBody (body : Text) : Repetition :=
  let options := trimmedOptions body
  if 1 < options.length ∧ overlap options then literal else ofOptions options

end Repetition

end SourceBook.Glob
