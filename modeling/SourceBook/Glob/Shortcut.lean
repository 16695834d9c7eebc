import SourceBook.Glob.Fragment
import SourceBook.Text.Lines

namespace SourceBook.Glob

open Fragment

def commonShapes : List (String × Text) :=
  let below := "(?:".toList ++ noDotsNext ++ deep ++ slash ++ ")?".toList
  [("*", noDotsNext ++ something ++ run),
    (".*", dot ++ something ++ run),
    ("*.*", noDotsNext ++ run ++ dot ++ something ++ run),
    ("*/*", noDotsNext ++ run ++ slash ++ something ++ noDots ++ run),
    ("**", noDotsNext ++ deep),
    ("**/*", below ++ noDots ++ something ++ run),
    ("**/*.*", below ++ noDots ++ run ++ dot ++ something ++ run),
    ("**/.*", below ++ dot ++ something ++ run)]

def isWord (c : Char) : Bool := c.isAlphanum || c == '_'

/-- The expression of a common shape with extensions behind it. The pattern is reversed, and `behind`
holds the extensions taken off it. -/
def shapeOf? : Nat → (reversed behind : Text) → Option Text
  | 0, _, _ => none
  | fuel + 1, reversed, behind =>
    match commonShapes.lookup (String.ofList reversed.reverse) with
    | some expression => some (expression ++ behind)
    | none =>
      let extension := (reversed.takeWhile isWord).reverse
      match reversed.drop extension.length with
      | '.' :: front =>
        if extension.isEmpty || front.any Text.isLineEnd then none
        else shapeOf? fuel front (dot ++ extension ++ behind)
      | _ => none

def commonShape? (pattern : Text) : Option Text :=
  (shapeOf? (pattern.length + 1) pattern.reverse []).map fun text => text ++ slash ++ ['?']

def isSimpleName (pattern : Text) : Bool :=
  pattern.head? != some '*' && pattern.head? != some '!' &&
    !pattern.any fun c => "/()[]\x7b\x7d\"".toList.contains c

/-- A run of one character that is no word character, in a simple name. `atStart` tells that it stands
first, `quoted` that a backslash stands in front. -/
def simpleRun (quoted : Bool) (c : Char) (count : Nat) : Text :=
  let mark := if quoted then ['\\'] else []
  let times (n : Nat) (text : Text) : Text := (List.replicate n text).flatten
  if c = '\\' then mark ++ List.replicate count c
  else if c = '?' then if quoted then mark ++ [c] ++ times (count - 1) unit else times count unit
  else if c = '.' then times count dot
  else if c = '*' then if quoted then mark ++ [c] ++ (if 1 < count then run else []) else run
  else '\\' :: List.replicate count c

-- The fuel is the length of the name.
def simpleRuns : Nat → Text → Text
  | fuel + 1, c :: rest =>
    let next (quoted : Bool) (c : Char) (rest : Text) :=
      let more := (rest.takeWhile (· == c)).length
      simpleRun quoted c (more + 1) ++ simpleRuns fuel (rest.drop more)
    match c, rest with
    | '\\', d :: tail => if isWord d then next false c rest else next true d tail
    | _, _ => if isWord c then c :: simpleRuns fuel rest else next false c rest
  | _, _ => []

def pairBackslashes (count : Nat) : Text → Text
  | '\\' :: rest => pairBackslashes (count + 1) rest
  | rest =>
    let run := if count = 0 then [] else if count % 2 = 0 then ['\\', '\\'] else ['\\']
    match rest with
    | [] => run
    | c :: tail => run ++ c :: pairBackslashes 0 tail

def hasLooseBackslash : Text → Bool
  | ['\\'] => true
  | '\\' :: c :: rest => isWord c || c == '\\' || hasLooseBackslash rest
  | _ :: rest => hasLooseBackslash rest
  | [] => false

def simpleName (pattern : Text) : Text :=
  let runs := simpleRuns pattern.length pattern
  "^(?:".toList ++ (if hasLooseBackslash pattern then pairBackslashes 0 runs else runs) ++ ")$".toList

end SourceBook.Glob
