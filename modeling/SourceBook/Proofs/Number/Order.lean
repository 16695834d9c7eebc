import Mathlib.Algebra.Order.Archimedean.Basic
import Mathlib.Data.Rat.Floor
import SourceBook.Number.Basic

namespace SourceBook.Number

def AtMost : Number → Number → Prop
  | infinite true, _ => True
  | _, infinite false => True
  | finite a, finite b => a ≤ b
  | _, _ => False

instance : LE Number := ⟨AtMost⟩

theorem finite_le_finite {p q : Rat} : finite p ≤ finite q ↔ p ≤ q := Iff.rfl

instance : Preorder Number where
  le_refl
    | infinite true => True.intro
    | infinite false => True.intro
    | finite _ => finite_le_finite.2 le_rfl
  le_trans
    | infinite true, _, _, _, _ => True.intro
    | finite _, infinite false, infinite false, _, _ => True.intro
    | infinite false, infinite false, infinite false, _, _ => True.intro
    | finite _, finite _, infinite false, _, _ => True.intro
    | finite _, finite _, finite _, hab, hbc =>
        finite_le_finite.2 ((finite_le_finite.1 hab).trans (finite_le_finite.1 hbc))

theorem isExceededBy_eq_false_iff {limit : Number} {n : Nat} :
    limit.isExceededBy n = false ↔ finite n ≤ limit := by
  cases limit with
  | finite q => exact decide_eq_false_iff_not.trans not_lt
  | infinite negative => cases negative <;> simp [isExceededBy, LE.le, AtMost]

theorem toNatUpTo_le_of_le {a b : Number} (h : a ≤ b) (bound : Nat) :
    a.toNatUpTo bound ≤ b.toNatUpTo bound := by
  match a, b, h with
  | infinite true, _, _ => exact Nat.zero_le _
  | finite p, infinite false, _ => exact Nat.min_le_left _ _
  | infinite false, infinite false, _ => exact le_refl _
  | finite p, finite q, h =>
      apply min_le_min_left
      exact Int.toNat_le_toNat (Rat.floor_monotone h)

end SourceBook.Number
