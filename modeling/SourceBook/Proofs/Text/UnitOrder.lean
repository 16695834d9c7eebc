import SourceBook.Proofs.Text.Sorting
import SourceBook.Text.Units

namespace SourceBook.Text

open Collation (transCmp_comap)
open Std (LawfulEqCmp TransCmp)

theorem units_cons (c : Char) (text : Text) : units (c :: text) = charUnits c ++ units text :=
  List.flatMap_cons

theorem charUnits_ne_nil (c : Char) : charUnits c ≠ [] := by
  simp only [charUnits]
  split <;> exact List.cons_ne_nil _ _

theorem charUnits_append_inj {c d : Char} {rest others : List Nat}
    (h : charUnits c ++ rest = charUnits d ++ others) : c = d ∧ rest = others := by
  have hc : c.toNat < 0xD800 ∨ 0xDFFF < c.toNat ∧ c.toNat < 0x110000 := c.valid
  have hd : d.toNat < 0xD800 ∨ 0xDFFF < d.toNat ∧ d.toNat < 0x110000 := d.valid
  rw [← Char.toNat_inj]
  simp only [charUnits] at h
  -- The first unit of a pair is no character, so it tells how many units there are.
  split at h <;> split at h <;> simp only [List.cons_append, List.nil_append, List.cons.injEq] at h
  · exact h
  · omega
  · omega
  · exact ⟨by omega, h.2.2⟩

theorem units_inj {a b : Text} (h : units a = units b) : a = b := by
  induction a generalizing b with
  | nil =>
      cases b with
      | nil => rfl
      | cons d b =>
          rw [units_cons] at h
          exact absurd (List.append_eq_nil_iff.1 h.symm).1 (charUnits_ne_nil d)
  | cons c a ih =>
      cases b with
      | nil =>
          rw [units_cons] at h
          exact absurd (List.append_eq_nil_iff.1 h).1 (charUnits_ne_nil c)
      | cons d b =>
          rw [units_cons, units_cons] at h
          obtain ⟨rfl, hrest⟩ := charUnits_append_inj h
          rw [ih hrest]

theorem compareUnits_eq_lt_iff {a b : Text} : compareUnits a b = .lt ↔ units a < units b := by
  rw [compareUnits]
  generalize units a = m
  generalize units b = n
  induction m generalizing n with
  | nil =>
      cases n with
      | nil => exact iff_of_false (fun h => by cases h) (List.not_lt_nil _)
      | cons y n => exact iff_of_true rfl (List.nil_lt_cons _ _)
  | cons x m ih =>
      cases n with
      | nil => exact iff_of_false (fun h => by cases h) (List.not_lt_nil _)
      | cons y n =>
          rw [List.compareLex_cons_cons, Ordering.then_eq_lt, ih, List.cons_lt_cons_iff, Nat.compare_eq_lt,
            Nat.compare_eq_eq]

instance : TransCmp compareUnits := transCmp_comap (List.compareLex compare) units

instance : LawfulEqCmp compareUnits where
  eq_of_compare h := units_inj (LawfulEqCmp.eq_of_compare h)

end SourceBook.Text
