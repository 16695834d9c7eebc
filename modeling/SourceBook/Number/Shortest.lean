import SourceBook.Number.Basic
import SourceBook.Text.Basic

namespace SourceBook.Number

/-- The rationals that round to a positive number: the ends of their interval, and whether the ends
belong to it. -/
structure Neighbourhood where
  low : Rat
  high : Rat
  closed : Bool

def neighbourhood (q : Rat) : Neighbourhood :=
  let e := gridExponent q
  let m := (q / twoPow e).floor.toNat
  let half := twoPow (e - 1)
  let halfBelow := if m = 1 <<< (precision - 1) ∧ minExponent < e then twoPow (e - 2) else half
  ⟨q - halfBelow, q + half, m % 2 == 0⟩

def Neighbourhood.has (n : Neighbourhood) (q : Rat) : Bool :=
  if n.closed then n.low ≤ q && q ≤ n.high else n.low < q && q < n.high

def digits (n : Nat) : Text := Nat.toDigits 10 n

def decimalExponent (q : Rat) : Int :=
  let k : Int := (digits q.num.natAbs).length - (digits q.den).length
  if (10 : Rat) ^ k ≤ q then k else k - 1

/-- The best decimal with `count` digits that reads back as `q`, in steps of its last digit. -/
def nearestDecimal? (q : Rat) (exponent : Int) (count : Nat) : Option Nat :=
  let step := (10 : Rat) ^ (exponent - (count : Int) + 1)
  let low := (q / step).floor.toNat
  let near (s : Nat) : Bool := (neighbourhood q).has ((s : Rat) * step)
  let below := q - (low : Rat) * step
  let above := (low + 1 : Rat) * step - q
  if near low && near (low + 1) then
    some (if below < above then low else if above < below then low + 1 else low + low % 2)
  else if near low then some low
  else if near (low + 1) then some (low + 1)
  else none

def shortestDigits (q : Rat) : Text × Int :=
  let exponent := decimalExponent q
  let count? := (List.range 17).find? fun n => (nearestDecimal? q exponent (n + 1)).isSome
  let count := (count?.getD 16) + 1
  let found := digits ((nearestDecimal? q exponent count).getD 0)
  let point := exponent + 1 + ((found.length : Int) - count)
  ((found.reverse.dropWhile (· == '0')).reverse, point)

def lowestPoint : Int := -5
def highestPoint : Int := 21

def layout (ds : Text) (point : Int) : Text :=
  let k : Int := ds.length
  if k ≤ point ∧ point ≤ highestPoint then ds ++ List.replicate (point - k).toNat '0'
  else if 0 < point ∧ point ≤ highestPoint then
    ds.take point.toNat ++ '.' :: ds.drop point.toNat
  else if lowestPoint ≤ point ∧ point ≤ 0 then
    '0' :: '.' :: List.replicate (-point).toNat '0' ++ ds
  else
    let e := point - 1
    let mantissa := match ds with
      | d :: d' :: rest => d :: '.' :: d' :: rest
      | short => short
    mantissa ++ 'e' :: (if e < 0 then '-' else '+') :: digits e.natAbs

def text : Number → Text
  | .infinite negative => (if negative then "-Infinity" else "Infinity").toList
  | .finite q =>
    if q = 0 then ['0']
    else
      let (ds, point) := shortestDigits (if q < 0 then -q else q)
      (if q < 0 then ['-'] else []) ++ layout ds point

end SourceBook.Number
