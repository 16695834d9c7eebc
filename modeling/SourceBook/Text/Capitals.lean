import SourceBook.Text.LowerCase

namespace SourceBook.Text

def secondForms : List (Nat × Nat) :=
  [(0xB5, 0x39C), (0x1C5, 0x1C4), (0x1C8, 0x1C7), (0x1CB, 0x1CA), (0x1F2, 0x1F1), (0x345, 0x399),
   (0x3C2, 0x3A3), (0x3D0, 0x392), (0x3D1, 0x398), (0x3D5, 0x3A6), (0x3D6, 0x3A0), (0x3F0, 0x39A),
   (0x3F1, 0x3A1), (0x3F5, 0x395), (0x1C80, 0x412), (0x1C81, 0x414), (0x1C82, 0x41E),
   (0x1C83, 0x421), (0x1C84, 0x422), (0x1C85, 0x422), (0x1C86, 0x42A), (0x1C87, 0x462),
   (0x1C88, 0xA64A), (0x1E9B, 0x1E60), (0x1FBE, 0x399)]

def hasLongCapital (u : Nat) : Bool :=
  u == 0xDF || (0x1F80 ≤ u && u ≤ 0x1FAF) || u == 0x1FB3 || u == 0x1FC3 || u == 0x1FF3

def raised (u : Nat) : Nat :=
  match caseRuns.find? fun run => run.covers ((u : Int) - run.shift).toNat with
  | some run => ((u : Int) - run.shift).toNat
  | none => u

/-- The capital is one unit: a letter whose capital form takes several has none, and no letter beyond ASCII
has a capital in it. -/
def capitalUnit (u : Nat) : Nat :=
  if u < 0x80 then if 0x61 ≤ u ∧ u ≤ 0x7A then u - 0x20 else u
  else if hasLongCapital u then u
  else (secondForms.lookup u).getD (raised u)

def loweredUnit (u : Nat) : Nat :=
  match caseRuns.find? fun run => run.covers u with
  | some run => ((u : Int) + run.shift).toNat
  | none => u

def farForms (u : Nat) : List Nat :=
  let capital := capitalUnit u
  let second := (secondForms.filter fun form => form.2 == capital).map Prod.fst
  (capital :: loweredUnit capital :: second).filter fun v => capitalUnit v == capital

def anyForm (property : Nat → Bool) (u : Nat) : Bool :=
  property u ||
    if u < 0x80 then
      if 0x61 ≤ u ∧ u ≤ 0x7A then property (u - 0x20)
      else if 0x41 ≤ u ∧ u ≤ 0x5A then property (u + 0x20)
      else false
    else (farForms u).any property

end SourceBook.Text
