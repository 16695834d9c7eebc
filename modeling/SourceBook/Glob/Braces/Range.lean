import SourceBook.Glob.Fault
import SourceBook.Number.Reading
import SourceBook.Text.Units

namespace SourceBook.Glob.Braces

def wholeNumber? (text : Text) : Option Int :=
  match Number.ofText? text with
  | some (.finite q) => if q.den = 1 then some q.num else none
  | _ => none

def steps (first last : Int) (step : Nat) : List Int :=
  let count := (last - first).natAbs / step
  (List.range (count + 1)).map fun k =>
    if first ≤ last then first + (k * step : Nat) else first - (k * step : Nat)

def isPadded (text : Text) : Bool :=
  let digits := match text with
    | '-' :: rest => rest
    | rest => rest
  digits.head? = some '0' && digits != ['0']

def paddedNumber (width : Nat) (n : Int) : Text :=
  let ds := (toString n.natAbs).toList
  if n < 0 then '-' :: ds.leftpad (width - 1) '0' else ds.leftpad width '0'

/-- Numbers are as wide as the widest of the texts when one of these has leading zeros. -/
def numberRange (first last step : Text) (a b : Int) (distance : Nat) : List Text :=
  let texts := [first, last, step]
  let width := if texts.any isPadded then (texts.map List.length).foldl max 0 else 0
  (steps a b distance).map (paddedNumber width)

def firstUnit (text : Text) : Int := (Text.units text).headD 0

def letterRange (first last : Text) (distance : Nat) : List Text :=
  (steps (firstUnit first) (firstUnit last) distance).filterMap fun n =>
    if 0xD800 ≤ n ∧ n < 0xE000 then none else some [Char.ofNat n.toNat]

def members (first last : Text) (step : Option Text) : List Text :=
  let step := match step with
    | some (c :: rest) => c :: rest
    | _ => ['1']
  let isEnd (text : Text) : Bool := (wholeNumber? text).isSome || Text.width text ≤ 1
  if first.isEmpty || last.isEmpty then []
  else
    match wholeNumber? step with
    | none => []
    | some d =>
      let distance := max 1 d.natAbs
      match wholeNumber? first, wholeNumber? last with
      | some a, some b => numberRange first last step a b distance
      | _, _ => if isEnd first && isEnd last then letterRange first last distance else []

def rangeLimit : Int := 1000

def isTooLong (first last : Text) : Bool :=
  match wholeNumber? first, wholeNumber? last with
  | some a, some b =>
    !(Text.trim first).isEmpty && !(Text.trim last).isEmpty && rangeLimit ≤ b - a
  | _, _ => false

def ofTexts : List Text → Except Fault (List Text)
  | [first, last] =>
    if isTooLong first last then .error .longRange else .ok (members first last none)
  | first :: last :: step :: _ => .ok (members first last (some step))
  | _ => .ok []

end SourceBook.Glob.Braces
