import SourceBook.Glob.Draft

namespace SourceBook.Glob

def classMembers : List (String × String) :=
  [("alnum", "a-zA-Z0-9"), ("alpha", "a-zA-Z"), ("ascii", "\\x00-\\x7F"), ("blank", " \\t"),
    ("cntrl", "\\x00-\\x1F\\x7F"), ("digit", "0-9"), ("graph", "\\x21-\\x7E"), ("lower", "a-z"),
    ("print", "\\x20-\\x7E "),
    ("punct", "\\-!\"#$%&'()\\*+,./:;<=>?@[\\]^_\x60\x7b|\x7d~"), ("space", " \\t\\r\\n\\v\\f"),
    ("upper", "A-Z"), ("word", "A-Za-z0-9_"), ("xdigit", "A-Fa-f0-9")]

def withClass? (set : Text) : Option Text :=
  let name := (set.reverse.takeWhile (· != '[')).reverse
  let front := set.take (set.length - name.length - 1)
  (classMembers.lookup (String.ofList (name.drop 1))).map fun members => front ++ members.toList

namespace Draft

def setIsEmpty (d : Draft) : Bool := d.last.written == ['['] || d.last.written == ['[', '^']

def openSet (d : Draft) : Draft :=
  if d.rest.contains ']' then
    { d.enter .set with inSet := true }.push { kind := .set, written := ['['] }
  else d.push { kind := .set, written := ['\\', '['] }

def setText (d : Draft) (text : Text) : Text :=
  match text with
  | ['['] => if d.rest.head? = some ':' then text else ['\\', '[']
  | ['-'] => if d.rest.head? = some ']' then ['\\', '-'] else text
  | [']'] => if d.setIsEmpty then ['\\', ']'] else text
  | ['!'] => if d.last.written = ['['] then ['^'] else text
  | _ => text

/-- Reads a text in a set. A colon may end the name of a class; the bracket behind it is skipped. -/
def readInSet (d : Draft) (text : Text) : Draft :=
  let inner := d.last.written.drop 1
  if text = [':'] ∧ inner.contains '[' then
    let d := d.alterLast fun mark => { mark with hasClass := true }
    match if inner.contains ':' then withClass? d.last.written else none with
    | some written =>
      let d := { (d.alterLast fun mark => { mark with written }).skip 1 with rebuilds := true }
      match d.marks with
      | [set, first] =>
        if first.expression.isEmpty then
          { d with marks := [set, { first with means := some Fragment.something }] }
        else d
      | _ => d
    | none => d.extend text
  else d.extend (d.setText text)

def closeSet (d : Draft) : Draft :=
  let inner := d.last.written.drop 1
  let excludes := !d.last.hasClass && inner.head? == some '^' && !inner.contains '/'
  let d := { d.leave with inSet := false }.extend (if excludes then ['/', ']'] else [']'])
  if inner.any Fragment.isSpecial then d
  else
    let set := d.last.written
    let either := "(?:".toList ++ Fragment.escape set ++ ['|'] ++ set ++ [')']
    { d.alterLast fun mark => { mark with written := either } with
      output := Fragment.dropLast set.length d.output ++ either }

end Draft

end SourceBook.Glob
