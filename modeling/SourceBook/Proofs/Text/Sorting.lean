import SourceBook.Text.Collation.Order
import Mathlib.Data.List.Sort

namespace SourceBook.Text

open Collation (transCmp_comap)
open Std (OrientedCmp TransCmp)

section

variable {α : Type} (cmp : α → α → Ordering) [TransCmp cmp]

theorem pairwise_mergeSort_isLE (items : List α) :
    (items.mergeSort fun a b => (cmp a b).isLE).Pairwise fun a b => (cmp a b).isLE = true := by
  apply List.pairwise_mergeSort
  · intro a b c
    exact TransCmp.isLE_trans
  · intro a b
    have hswap : cmp b a = (cmp a b).swap := OrientedCmp.eq_swap
    rw [hswap]
    cases cmp a b <;> rfl

variable {cmp}

/-- Lists in order are told apart by their items as long as no two items have the same place. -/
theorem eq_of_perm_of_pairwise {items others : List α} (h : items.Perm others)
    (hitems : items.Pairwise fun a b => (cmp a b).isLE = true)
    (hothers : others.Pairwise fun a b => (cmp a b).isLE = true)
    (hties : ∀ a ∈ items, ∀ b ∈ items, cmp a b = .eq → a = b) : items = others := by
  apply List.Perm.eq_of_pairwise _ hitems hothers h
  intro a b ha hb hab hba
  apply hties a ha b (h.mem_iff.2 hb)
  have hswap : cmp b a = (cmp a b).swap := OrientedCmp.eq_swap
  rw [hswap] at hba
  cases hcmp : cmp a b with
  | lt => rw [hcmp] at hba; cases hba
  | eq => rfl
  | gt => rw [hcmp] at hab; cases hab

end

section

variable [Collation] {α : Type} (name : α → Text) (items : List α)

theorem sortBy_perm : (sortBy name items).Perm items := List.mergeSort_perm _ _

theorem mem_sortBy {item : α} : item ∈ sortBy name items ↔ item ∈ items :=
  (sortBy_perm name items).mem_iff

theorem pairwise_sortBy :
    (sortBy name items).Pairwise fun a b => (Collation.compare (name a) (name b)).isLE = true := by
  have := transCmp_comap Collation.compare name
  exact pairwise_mergeSort_isLE (fun a b : α => Collation.compare (name a) (name b)) items

variable {name items}

theorem sortBy_eq_of_perm {others : List α} (h : items.Perm others)
    (hties : ∀ a ∈ items, ∀ b ∈ items, Collation.compare (name a) (name b) = .eq → a = b) :
    sortBy name items = sortBy name others := by
  have := transCmp_comap Collation.compare name
  apply eq_of_perm_of_pairwise _ (pairwise_sortBy name items) (pairwise_sortBy name others)
  · intro a ha b hb
    exact hties a ((mem_sortBy name items).1 ha) b ((mem_sortBy name items).1 hb)
  · exact (sortBy_perm name items).trans (h.trans (sortBy_perm name others).symm)

theorem sort_perm (texts : List Text) : (sort texts).Perm texts := sortBy_perm id texts

theorem sort_of_pairwise {texts : List Text}
    (h : texts.Pairwise fun a b => (Collation.compare a b).isLE = true) : sort texts = texts :=
  List.mergeSort_of_pairwise h

end

end SourceBook.Text
