namespace SourceBook

/-- A number with the precision of sixty-four bits. It is held by its exact value, so sums and comparisons
need no rules of their own; only `round` knows about precision. -/
inductive Number where
  | finite (value : Rat)
  | infinite (negative : Bool)
  deriving DecidableEq

namespace Number

def minExponent : Int := -1074
def maxExponent : Int := 1024

def precision : Nat := 53

def twoPow (e : Int) : Rat := (2 : Rat) ^ e

/-- The exponent of the grid on which numbers near a positive rational lie: the rational has as many
binary digits above it as the precision allows, fewer where the smallest exponent is reached. -/
def gridExponent (q : Rat) : Int :=
  let k : Int := (q.num.natAbs.log2 : Int) - (q.den.log2 : Int)
  let top := if twoPow k ≤ q then k else k - 1
  max minExponent (top + 1 - (precision : Int))

def roundEven (q : Rat) : Nat :=
  let low := q.floor.toNat
  let rest := q - (low : Rat)
  if rest < 1 / 2 then low else if 1 / 2 < rest then low + 1 else low + low % 2

def roundPositive (q : Rat) : Option Rat :=
  let e := gridExponent q
  let rounded := (roundEven (q / twoPow e) : Rat) * twoPow e
  if rounded < twoPow maxExponent then some rounded else none

def round (q : Rat) : Number :=
  if q = 0 then .finite 0
  else
    let negative : Bool := q < 0
    match roundPositive (if negative then -q else q) with
    | some rounded => .finite (if negative then -rounded else rounded)
    | none => .infinite negative

def ofInt (n : Int) : Number := round (n : Rat)

def ofNat (n : Nat) : Number := ofInt n

/-- The number written as digits and a power of ten. Exponents out of all range are settled first, so
that no huge power is computed. -/
def ofDecimal (negative : Bool) (digits : Nat) (exponent : Int) : Number :=
  if digits = 0 then .finite 0
  else
    let size : Int := (digits.log2 : Int) * 3 / 10 + exponent
    if 400 < size then .infinite negative
    else if size < -500 then .finite 0
    else
      let q := (digits : Rat) * (10 : Rat) ^ exponent
      round (if negative then -q else q)

def truncate : Number → Number
  | .finite q => .finite (if q < 0 then q.ceil else q.floor : Int)
  | .infinite negative => .infinite negative

def isPositive : Number → Bool
  | .finite q => 0 < q
  | .infinite negative => !negative

def isExceededBy (limit : Number) (n : Nat) : Bool :=
  match limit with
  | .finite q => q < (n : Rat)
  | .infinite negative => negative

def times (a : Number) (n : Nat) : Number :=
  match a with
  | .finite q => round (q * (n : Rat))
  | .infinite negative => .infinite negative

def ceilDiv (a : Number) (n : Nat) : Number :=
  match a with
  | .finite q => .finite ((q / (n : Rat)).ceil : Int)
  | .infinite negative => .infinite negative

def toNatUpTo (bound : Nat) : Number → Nat
  | .finite q => min bound q.floor.toNat
  | .infinite negative => if negative then 0 else bound

end Number

end SourceBook
