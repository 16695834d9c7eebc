import SourceBook.Number.Shortest
import SourceBook.Text.Basic

namespace SourceBook.Glob

inductive Fault where
  | emptyPattern
  | longRange
  | longBraces (units : Nat)
  | longPattern (units : Nat)
  | strandedParentheses
  deriving DecidableEq, Repr

def bracesLimit : Nat := 10000
def patternLimit : Nat := 65536

def Fault.message (fault : Fault) : Text :=
  let count (n : Nat) : Text := (Number.ofNat n).text
  match fault with
  | emptyPattern => "Expected a non-empty string".toList
  | longRange => ("expanded array length exceeds range limit. Use options.rangeLimit to increase " ++
      "or disable the limit.").toList
  | longBraces units => "Input length (".toList ++ count units ++
      "), exceeds max characters (".toList ++ count bracesLimit ++ [')']
  | longPattern units => "Input length: ".toList ++ count units ++
      ", exceeds maximum allowed length: ".toList ++ count patternLimit
  | strandedParentheses => "Cannot read properties of undefined (reading 'push')".toList

end SourceBook.Glob
