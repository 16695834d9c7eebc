import SourceBook.Text.Basic
import Mathlib.Data.List.Nodup

namespace SourceBook.Text

/-- Each name and which occurrence of it stands there, with those of `earlier` in front. -/
def occurrencesFrom (earlier : List Text) : List Text → List (Text × Nat)
  | [] => []
  | base :: rest => (base, earlier.count base + 1) :: occurrencesFrom (base :: earlier) rest

theorem mem_occurrencesFrom {earlier bases : List Text} {p : Text × Nat} :
    p ∈ occurrencesFrom earlier bases ↔
      earlier.count p.1 < p.2 ∧ p.2 ≤ earlier.count p.1 + bases.count p.1 := by
  induction bases generalizing earlier with
  | nil =>
      simp only [occurrencesFrom, List.not_mem_nil, List.count_nil, false_iff]
      omega
  | cons base bases ih =>
      rw [occurrencesFrom, List.mem_cons, ih]
      obtain ⟨name, n⟩ := p
      by_cases hname : name = base
      · subst hname
        simp only [Prod.mk.injEq, true_and, List.count_cons_self]
        omega
      · have hbase : base ≠ name := fun h => hname h.symm
        simp only [Prod.mk.injEq, hname, false_and, false_or, List.count_cons_of_ne hbase]

theorem nodup_occurrencesFrom (earlier bases : List Text) : (occurrencesFrom earlier bases).Nodup := by
  induction bases generalizing earlier with
  | nil => exact List.nodup_nil
  | cons base bases ih =>
      refine List.nodup_cons.2 ⟨?_, ih _⟩
      intro h
      have hlater := (mem_occurrencesFrom.1 h).1
      rw [List.count_cons_self] at hlater
      exact Nat.lt_irrefl _ hlater

theorem mem_occurrences {bases : List Text} {base : Text} {n : Nat} :
    (base, n) ∈ occurrencesFrom [] bases ↔ 1 ≤ n ∧ n ≤ bases.count base := by
  rw [mem_occurrencesFrom, List.count_nil, Nat.zero_add]
  rfl

section

variable (mark : Text × Nat → Text) (hfirst : ∀ base, mark (base, 1) = base)
  (hinj : ∀ a b m n, 1 < m → 1 < n → mark (a, m) = mark (b, n) → a = b ∧ m = n)

include hfirst hinj

theorem nodup_map_mark_iff (bases : List Text) :
    ((occurrencesFrom [] bases).map mark).Nodup ↔
      ∀ base ∈ bases, ∀ other ∈ bases, ∀ n ≤ bases.count base, 2 ≤ n → other ≠ mark (base, n) := by
  rw [List.nodup_map_iff_inj_on (nodup_occurrencesFrom _ _)]
  constructor
  · intro hon base hbase other hother n hle hn heq
    have hone := hon (other, 1) (mem_occurrences.2 ⟨Nat.le_refl 1, List.count_pos_iff.2 hother⟩) (base, n)
      (mem_occurrences.2 ⟨by omega, hle⟩) ((hfirst other).trans heq)
    rw [Prod.mk.injEq] at hone
    omega
  · intro hfree
    -- A marked text cannot be told from a plain one by its form, so this is where the condition is needed.
    have hplain : ∀ {a b n}, (a, 1) ∈ occurrencesFrom [] bases → (b, n) ∈ occurrencesFrom [] bases →
        mark (a, 1) = mark (b, n) → n = 1 := by
      intro a b n ha hb heq
      by_contra hn
      obtain ⟨hpos, hle⟩ := mem_occurrences.1 hb
      have hother := List.count_pos_iff.1 (mem_occurrences.1 ha).2
      have hbase := List.count_pos_iff.1 (Nat.le_trans hpos hle)
      rw [hfirst] at heq
      exact hfree b hbase a hother n hle (by omega) heq
    rintro ⟨a, m⟩ ha ⟨b, n⟩ hb heq
    by_cases hm : m = 1
    · subst hm
      obtain rfl := hplain ha hb heq
      rw [hfirst, hfirst] at heq
      rw [heq]
    by_cases hn : n = 1
    · subst hn
      exact absurd (hplain hb ha heq.symm) hm
    have hmpos := (mem_occurrences.1 ha).1
    have hnpos := (mem_occurrences.1 hb).1
    obtain ⟨rfl, rfl⟩ := hinj a b m n (by omega) (by omega) heq
    rfl

end

end SourceBook.Text
