import SourceBook.Expression.Basic
import SourceBook.Number.Reading
import SourceBook.Text.LetterOrNumber
import SourceBook.Text.Units

namespace SourceBook.Expression

inductive Bracket where
  | plain
  | capture (name : Option Text)
  | look (back wanted : Bool)
  deriving DecidableEq, Repr

inductive Sign where
  | one (set : UnitSet)
  | start
  | finish
  | edge (wanted : Bool)
  | again (group : Nat)
  | againNamed (name : Text)
  | opening (bracket : Bracket)
  | closing
  | bar
  | count (bounds : Bounds)
  deriving DecidableEq, Repr

structure Census where
  captures : Nat := 0
  named : Bool := false

def Census.take (census : Census) (inSet : Bool) : Text → Census
  | '\\' :: _ :: rest => census.take inSet rest
  | c :: rest =>
    if inSet then census.take (c != ']') rest
    else if c = '(' then
      match rest with
      | '?' :: '<' :: tail =>
        if tail.head? = some '=' ∨ tail.head? = some '!' then census.take false rest
        else Census.take ⟨census.captures + 1, true⟩ false rest
      | '?' :: _ => census.take false rest
      | _ => Census.take { census with captures := census.captures + 1 } false rest
    else census.take (c = '[') rest
  | [] => census

def octalDigit? (c : Char) : Option Nat := Number.digitValue? 8 c

def octal (first : Nat) : Text → Nat × Text
  | c :: rest =>
    match octalDigit? c with
    | none => (first, c :: rest)
    | some second =>
      let value := first * 8 + second
      match rest with
      | d :: tail =>
        match if value < 32 then octalDigit? d else none with
        | some third => (value * 8 + third, tail)
        | none => (value, rest)
      | [] => (value, [])
  | [] => (first, [])

def hex? (digits : Nat) (text : Text) : Option (Nat × Text) :=
  if text.length < digits then none
  else (Number.whole? 16 (text.take digits)).map fun n => (n, text.drop digits)

def kindNamed? (c : Char) : Option UnitMember :=
  if c = 'd' then some (.kind .digit) else if c = 'D' then some (.otherThan .digit)
  else if c = 'w' then some (.kind .word) else if c = 'W' then some (.otherThan .word)
  else if c = 's' then some (.kind .blank) else if c = 'S' then some (.otherThan .blank)
  else none

def escaped (inSet : Bool) (census : Census) (c : Char) (rest : Text) : Option (List Nat × Text) :=
  if c = 'f' then some ([12], rest) else if c = 'n' then some ([10], rest)
  else if c = 'r' then some ([13], rest) else if c = 't' then some ([9], rest)
  else if c = 'v' then some ([11], rest)
  else if c = 'k' ∧ census.named then none
  else if c = 'c' then
    match rest with
    | d :: tail =>
      if d.isAlpha || (inSet && (d.isDigit || d == '_')) then some ([d.toNat % 32], tail)
      else some (['\\'.toNat], c :: rest)
    | [] => some (['\\'.toNat], [c])
  else
    match if c = 'x' then hex? 2 rest else if c = 'u' then hex? 4 rest else none with
    | some (n, tail) => some ([n], tail)
    | none =>
      match if c = '0' ∨ inSet then octalDigit? c else none with
      | some first => let (n, tail) := octal first rest; some ([n], tail)
      | none => some (Text.charUnits c, rest)

inductive SetPart where
  | dash
  | unit (u : Nat)
  | kind (member : UnitMember)

namespace SetPart

def unit? : SetPart → Option Nat
  | dash => some '-'.toNat
  | unit u => some u
  | kind _ => none

def member : SetPart → UnitMember
  | dash => .range '-'.toNat '-'.toNat
  | unit u => .range u u
  | kind m => m

def join : List SetPart → Option (List UnitMember)
  | a :: dash :: b :: rest =>
    match a.unit?, b.unit? with
    | some first, some last =>
      if first ≤ last then (join rest).map (.range first last :: ·) else none
    | _, _ => (join rest).map ([a.member, dash.member, b.member] ++ ·)
  | a :: rest => (join rest).map (a.member :: ·)
  | [] => some []

end SetPart

-- The fuel is the length of the text.
def setParts (census : Census) : Nat → Text → Option (List SetPart × Text)
  | fuel + 1, '\\' :: c :: rest =>
    let behind (parts : List SetPart) (rest : Text) :=
      (setParts census fuel rest).map fun (more, tail) => (parts ++ more, tail)
    match kindNamed? c with
    | some member => behind [.kind member] rest
    | none =>
      if c = 'b' then behind [.unit 8] rest
      else (escaped true census c rest).bind fun (units, rest) => behind (units.map .unit) rest
  | fuel + 1, c :: rest =>
    if c = ']' then some ([], rest)
    else if c = '\\' then none
    else
      let parts := if c = '-' then [.dash] else (Text.charUnits c).map .unit
      (setParts census fuel rest).map fun (more, tail) => (parts ++ more, tail)
  | _, _ => none

def set? (census : Census) (text : Text) : Option (UnitSet × Text) :=
  let (inverted, body) := match text with
    | '^' :: rest => (true, rest)
    | rest => (false, rest)
  (setParts census body.length body).bind fun (parts, rest) =>
    (SetPart.join parts).map fun members => ({ members, inverted }, rest)

def bounded? (least : Nat) (most : Option Nat) (rest : Text) : Option (List Sign × Text) :=
  if most.any (· < least) then none
  else
    match rest with
    | '?' :: tail => some ([.count ⟨least, most, false⟩], tail)
    | _ => some ([.count ⟨least, most, true⟩], rest)

def interval? (text : Text) : Option ((Nat × Option Nat) × Text) :=
  let number (t : Text) := (Number.whole? 10 (t.takeWhile Char.isDigit), t.dropWhile Char.isDigit)
  match number text with
  | (some least, '\x7d' :: rest) => some ((least, some least), rest)
  | (some least, ',' :: tail) =>
    match number tail with
    | (most, '\x7d' :: rest) => some ((least, most), rest)
    | _ => none
  | _ => none

def name? (text : Text) : Option (Text × Text) :=
  let name := text.takeWhile (· != '>')
  let starts (c : Char) : Bool := c == '$' || c == '_' || (Text.isLetterOrNumber c && !c.isDigit)
  if name.length < text.length ∧ name.head?.any starts ∧
      name.all (fun c => starts c || c.isDigit) then
    some (name, text.drop (name.length + 1))
  else none

def bracket? : Text → Option (Bracket × Text)
  | '?' :: ':' :: rest => some (.plain, rest)
  | '?' :: '=' :: rest => some (.look false true, rest)
  | '?' :: '!' :: rest => some (.look false false, rest)
  | '?' :: '<' :: '=' :: rest => some (.look true true, rest)
  | '?' :: '<' :: '!' :: rest => some (.look true false, rest)
  | '?' :: '<' :: rest => (name? rest).map fun (name, tail) => (.capture (some name), tail)
  | '?' :: _ => none
  | rest => some (.capture none, rest)

def single (units : List Nat) : List Sign := units.map fun u => .one (.single u)

def escapedSigns? (census : Census) (c : Char) (rest : Text) : Option (List Sign × Text) :=
  let plain (_ : Unit) := (escaped false census c rest).map fun (units, tail) => (single units, tail)
  if c = 'b' then some ([.edge true], rest)
  else if c = 'B' then some ([.edge false], rest)
  else if c = 'k' ∧ census.named then
    match rest with
    | '<' :: tail => (name? tail).map fun (name, tail) => ([.againNamed name], tail)
    | _ => none
  else
    match kindNamed? c with
    | some member => some ([.one { members := [member] }], rest)
    | none =>
      if c.isDigit ∧ c ≠ '0' then
        match Number.whole? 10 (c :: rest.takeWhile Char.isDigit), octalDigit? c with
        | some n, first =>
          if n ≤ census.captures then some ([.again n], rest.dropWhile Char.isDigit)
          else
            match first with
            | some first => let (u, tail) := octal first rest; some (single [u], tail)
            | none => plain ()
        | none, _ => none
      else plain ()

def firstSigns? (census : Census) (c : Char) (rest : Text) : Option (List Sign × Text) :=
  if c = '\\' then
    match rest with
    | d :: tail => escapedSigns? census d tail
    | [] => none
  else if c = '[' then (set? census rest).map fun (set, tail) => ([.one set], tail)
  else if c = '(' then (bracket? rest).map fun (bracket, tail) => ([.opening bracket], tail)
  else if c = ')' then some ([.closing], rest)
  else if c = '|' then some ([.bar], rest)
  else if c = '^' then some ([.start], rest)
  else if c = '$' then some ([.finish], rest)
  else if c = '.' then some ([.one .inLine], rest)
  else if c = '*' then bounded? 0 none rest
  else if c = '+' then bounded? 1 none rest
  else if c = '?' then bounded? 0 (some 1) rest
  else
    match if c = '\x7b' then interval? rest else none with
    | some ((least, most), tail) => bounded? least most tail
    | none => some (single (Text.charUnits c), rest)

-- The fuel is the length of the text.
def signs? (census : Census) : Nat → Text → Option (List Sign)
  | _, [] => some []
  | 0, _ :: _ => none
  | fuel + 1, c :: rest => do
    let (first, tail) ← firstSigns? census c rest
    return first ++ (← signs? census fuel tail)

end SourceBook.Expression
