import SourceBook.Text.Collation.Compounds

namespace SourceBook.Text

open Std (OrientedCmp TransCmp)

/-- An order of names. It is total and transitive, but different names may stand at one place in it. -/
class Collation where
  compare : Text → Text → Ordering
  transCmp : TransCmp compare

namespace Collation

theorem transCmp_comap {α β : Type} (cmp : α → α → Ordering) [TransCmp cmp] (f : β → α) :
    TransCmp fun a b => cmp (f a) (f b) where
  eq_swap := OrientedCmp.eq_swap
  isLE_trans := TransCmp.isLE_trans

def single? (n : Nat) : Option Weight := weightRuns.findSome? fun run => run.weight? n

def jamo (n : Nat) : List Nat :=
  let s := n - 0xAC00
  [0x1100 + s / 588, 0x1161 + s % 588 / 28] ++ (if s % 28 = 0 then [] else [0x11A7 + s % 28])

def derived (group n : Nat) : List Weight := [⟨group, 32, 2⟩, ⟨n + 1, 0, 0⟩]

-- The group of a character in no table: ideographs come last, the common ones before the rare ones, and
-- other scripts stand before Hangul and kana.
def group (n : Nat) : Nat :=
  if 0x4E00 ≤ n ∧ n ≤ 0x9FFF then 0xFB40
  else if (0x3400 ≤ n ∧ n ≤ 0x4DBF) ∨ (0x20000 ≤ n ∧ n ≤ 0x3FFFF) then 0xFB80
  else 9600

def charWeights (c : Char) : List Weight :=
  let n := c.toNat
  match single? n with
  | some weight => [weight]
  | none =>
    match composed.lookup n, compound.lookup n with
    | some parts, _ => parts.filterMap single?
    | none, some weights => weights
    | none, none =>
      if 0xAC00 ≤ n ∧ n ≤ 0xD7A3 then (jamo n).filterMap single? else derived (group n) n

structure Key where
  primaries : List Nat
  secondaries : List Nat
  tertiaries : List Nat

def key (text : Text) : Key :=
  let weights := text.flatMap charWeights
  let level (f : Weight → Nat) : List Nat := (weights.map f).filter (· != 0)
  ⟨level Weight.primary, level Weight.secondary, level Weight.tertiary⟩

def Key.compare (a b : Key) : Ordering :=
  (List.compareLex Ord.compare a.primaries b.primaries).then <|
    (List.compareLex Ord.compare a.secondaries b.secondaries).then <|
      List.compareLex Ord.compare a.tertiaries b.tertiaries

instance : TransCmp Key.compare := by
  have := transCmp_comap (List.compareLex Ord.compare) Key.primaries
  have := transCmp_comap (List.compareLex Ord.compare) Key.secondaries
  have := transCmp_comap (List.compareLex Ord.compare) Key.tertiaries
  exact inferInstanceAs (TransCmp (compareLex _ (compareLex _ _)))

/-- The order that a run uses: by letters first, over the whole text; where the letters are alike by accents,
and only then by case, small letters first. Punctuation counts as letters do. -/
instance byWeights : Collation where
  compare a b := (key a).compare (key b)
  transCmp := transCmp_comap Key.compare key

attribute [instance] transCmp

end Collation

variable [Collation]

/-- The items in the order of their names; items whose names compare equal stay in their order. -/
def sortBy {α : Type} (name : α → Text) (items : List α) : List α :=
  items.mergeSort fun a b => (Collation.compare (name a) (name b)).isLE

def sort (texts : List Text) : List Text := sortBy id texts

end SourceBook.Text
