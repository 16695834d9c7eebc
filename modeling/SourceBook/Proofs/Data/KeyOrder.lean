import SourceBook.Data.KeyOrder
import SourceBook.Proofs.Text.UnitOrder

namespace SourceBook.Data

open Std (LawfulEqCmp ReflCmp TransCmp)
open Text.Collation (transCmp_comap)

def IsIndex (key : Text) : Prop := ∃ n < indexBound, key = Number.digits n

/-- List indices stand first, by their value, and the other keys follow by their code units. -/
inductive Precedes : Text → Text → Prop
  | indices {m n : Nat} (hn : n < indexBound) (h : m < n) : Precedes (Number.digits m) (Number.digits n)
  | index {m : Nat} {key : Text} (hm : m < indexBound) (h : ¬ IsIndex key) :
      Precedes (Number.digits m) key
  | others {a b : Text} (ha : ¬ IsIndex a) (hb : ¬ IsIndex b) (h : Text.units a < Text.units b) :
      Precedes a b

theorem foldl_digits (n : Nat) :
    (Number.digits n).foldl (fun n c => n * 10 + (c.toNat - '0'.toNat)) 0 = n := by
  have h (key : Text) (init : Nat) : key.foldl (fun n c => n * 10 + (c.toNat - '0'.toNat)) init =
      Nat.ofDigitChars 10 key init := by
    induction key generalizing init with
    | nil => rfl
    | cons c key ih => rw [List.foldl_cons, ih, Nat.ofDigitChars_cons, Nat.mul_comm 10]
  rw [h]
  exact Nat.ofDigitChars_toDigits (by decide) (by decide)

theorem index?_eq_some_iff {key : Text} {n : Nat} :
    index? key = some n ↔ n < indexBound ∧ key = Number.digits n := by
  constructor
  · intro h
    simp only [index?] at h
    split at h
    · next hindex =>
        cases h
        exact ⟨hindex.2.2, hindex.2.1⟩
    · cases h
  · rintro ⟨hn, rfl⟩
    have hdigits : (Number.digits n).all Char.isDigit = true :=
      List.all_eq_true.2 fun c hc => Nat.isDigit_of_mem_toDigits (by decide) (by decide) hc
    simp only [index?, foldl_digits]
    exact if_pos ⟨hdigits, trivial, hn⟩

theorem index?_eq_none_iff {key : Text} : index? key = none ↔ ¬ IsIndex key := by
  rw [Option.eq_none_iff_forall_ne_some]
  simp only [ne_eq, index?_eq_some_iff, IsIndex, not_exists]

theorem isSome_index?_iff {key : Text} : (index? key).isSome = true ↔ IsIndex key := by
  rw [Option.isSome_iff_ne_none, ne_eq, index?_eq_none_iff, not_not]

def rank (key : Text) : Nat := (index? key).getD indexBound

theorem rank_digits {n : Nat} (hn : n < indexBound) : rank (Number.digits n) = n := by
  rw [rank, index?_eq_some_iff.2 ⟨hn, rfl⟩]
  rfl

theorem rank_of_not_isIndex {key : Text} (h : ¬ IsIndex key) : rank key = indexBound := by
  rw [rank, index?_eq_none_iff.2 h]
  rfl

theorem rank_le (key : Text) : rank key ≤ indexBound := by
  by_cases h : IsIndex key
  · obtain ⟨n, hn, rfl⟩ := h
    rw [rank_digits hn]
    exact Nat.le_of_lt hn
  · exact Nat.le_of_eq (rank_of_not_isIndex h)

theorem compareKeys_eq (a b : Text) :
    compareKeys a b = (compare (rank a) (rank b)).then (Text.compareUnits a b) := by
  simp only [compareKeys, rank]
  cases ha : index? a with
  | none =>
      cases hb : index? b with
      | none =>
          rw [Option.getD_none, Nat.compare_eq_eq.2 rfl]
          rfl
      | some n =>
          have hn := (index?_eq_some_iff.1 hb).1
          rw [Option.getD_none, Option.getD_some, Nat.compare_eq_gt.2 hn]
          rfl
  | some m =>
      obtain ⟨hm, rfl⟩ := index?_eq_some_iff.1 ha
      cases hb : index? b with
      | none =>
          rw [Option.getD_none, Option.getD_some, Nat.compare_eq_lt.2 hm]
          rfl
      | some n =>
          obtain ⟨-, rfl⟩ := index?_eq_some_iff.1 hb
          rw [Option.getD_some, Option.getD_some]
          cases hcmp : compare m n with
          | lt | gt => exact hcmp
          | eq =>
              obtain rfl := Nat.compare_eq_eq.1 hcmp
              exact hcmp.trans ReflCmp.compare_self.symm

theorem compareKeys_of_isIndex {a b : Text} (ha : IsIndex a) (hb : IsIndex b) :
    compareKeys a b = compare (rank a) (rank b) := by
  obtain ⟨m, hm, rfl⟩ := ha
  obtain ⟨n, hn, rfl⟩ := hb
  rw [compareKeys, index?_eq_some_iff.2 ⟨hm, rfl⟩, index?_eq_some_iff.2 ⟨hn, rfl⟩, rank_digits hm,
    rank_digits hn]

theorem compareKeys_of_not_isIndex {a b : Text} (ha : ¬ IsIndex a) (hb : ¬ IsIndex b) :
    compareKeys a b = Text.compareUnits a b := by
  rw [compareKeys, index?_eq_none_iff.2 ha, index?_eq_none_iff.2 hb]

instance : TransCmp compareKeys := by
  have := transCmp_comap (compare : Nat → Nat → Ordering) rank
  have hkeys : compareKeys = compareLex (fun a b => compare (rank a) (rank b)) Text.compareUnits := by
    funext a b
    exact compareKeys_eq a b
  rw [hkeys]
  infer_instance

theorem eq_of_compareKeys_eq {a b : Text} (h : compareKeys a b = .eq) : a = b := by
  rw [compareKeys_eq, Ordering.then_eq_eq] at h
  exact LawfulEqCmp.eq_of_compare h.2

theorem compareKeys_eq_lt_iff {a b : Text} : compareKeys a b = .lt ↔ Precedes a b := by
  rw [compareKeys_eq, Ordering.then_eq_lt, Nat.compare_eq_lt, Nat.compare_eq_eq,
    Text.compareUnits_eq_lt_iff]
  constructor
  · by_cases ha : IsIndex a
    · obtain ⟨m, hm, rfl⟩ := ha
      rw [rank_digits hm]
      by_cases hb : IsIndex b
      · obtain ⟨n, hn, rfl⟩ := hb
        rw [rank_digits hn]
        rintro (hlt | ⟨rfl, hunits⟩)
        · exact .indices hn hlt
        · exact absurd hunits (List.lt_irrefl _)
      · exact fun _ => .index hm hb
    · rw [rank_of_not_isIndex ha]
      rintro (hlt | ⟨heq, hunits⟩)
      · exact absurd hlt (Nat.not_lt.2 (rank_le b))
      · refine .others ha (fun hb => ?_) hunits
        obtain ⟨n, hn, rfl⟩ := hb
        rw [rank_digits hn] at heq
        exact Nat.ne_of_lt hn heq.symm
  · rintro (⟨hn, hmn⟩ | ⟨hm, hkey⟩ | ⟨ha, hb, hunits⟩)
    · rw [rank_digits hn, rank_digits (Nat.lt_trans hmn hn)]
      exact .inl hmn
    · rw [rank_digits hm, rank_of_not_isIndex hkey]
      exact .inl hm
    · rw [rank_of_not_isIndex ha, rank_of_not_isIndex hb]
      exact .inr ⟨rfl, hunits⟩

section

variable {α : Type} (entries : List (Text × α))

theorem sortEntries_perm :
    (sortEntries entries).Perm (entries.filter fun entry => entry.1 != lostKey) :=
  List.mergeSort_perm _ _

theorem pairwise_sortEntries :
    (sortEntries entries).Pairwise fun a b => (compareKeys a.1 b.1).isLE = true := by
  have := transCmp_comap compareKeys (Prod.fst : Text × α → Text)
  exact Text.pairwise_mergeSort_isLE (fun a b : Text × α => compareKeys a.1 b.1) _

variable {entries}

theorem mem_of_mem_sortEntries {entry : Text × α} (h : entry ∈ sortEntries entries) : entry ∈ entries :=
  List.mem_of_mem_filter ((sortEntries_perm entries).mem_iff.1 h)

variable (hkeys : (entries.map Prod.fst).Nodup)

include hkeys

theorem eq_of_mem_sortEntries {a b : Text × α} (ha : a ∈ sortEntries entries)
    (hb : b ∈ sortEntries entries) (h : compareKeys a.1 b.1 = .eq) : a = b :=
  List.inj_on_of_nodup_map hkeys (mem_of_mem_sortEntries ha) (mem_of_mem_sortEntries hb)
    (eq_of_compareKeys_eq h)

/-- Entries in key order with the right items are the sorted ones. -/
theorem sortEntries_eq_of_pairwise {others : List (Text × α)}
    (hperm : others.Perm (entries.filter fun entry => entry.1 != lostKey))
    (hothers : others.Pairwise fun a b => (compareKeys a.1 b.1).isLE = true) :
    sortEntries entries = others := by
  have := transCmp_comap compareKeys (Prod.fst : Text × α → Text)
  apply Text.eq_of_perm_of_pairwise _ (pairwise_sortEntries entries) hothers
  · exact fun a ha b hb => eq_of_mem_sortEntries hkeys ha hb
  · exact (sortEntries_perm entries).trans hperm.symm

theorem sortEntries_eq_of_perm {others : List (Text × α)} (h : entries.Perm others) :
    sortEntries entries = sortEntries others :=
  sortEntries_eq_of_pairwise hkeys ((sortEntries_perm others).trans (h.symm.filter _))
    (pairwise_sortEntries others)

/-- How a record gives out entries that are stored in it one after another: the list indices by their
value, and behind them the others as they came. -/
def listed (entries : List (Text × α)) : List (Text × α) :=
  ((entries.filter fun entry => (index? entry.1).isSome).mergeSort fun a b =>
      (compare (rank a.1) (rank b.1)).isLE) ++
    entries.filter fun entry => !(index? entry.1).isSome

omit hkeys in
theorem listed_perm (entries : List (Text × α)) : (listed entries).Perm entries :=
  ((List.mergeSort_perm _ _).append_right _).trans (List.filter_append_perm _ entries)

omit hkeys in
theorem pairwise_listed (h : entries.Pairwise fun a b => (Text.compareUnits a.1 b.1).isLE = true) :
    (listed entries).Pairwise fun a b => (compareKeys a.1 b.1).isLE = true := by
  have := transCmp_comap (compare : Nat → Nat → Ordering) fun entry : Text × α => rank entry.1
  have hindices := Text.pairwise_mergeSort_isLE
    (fun a b : Text × α => compare (rank a.1) (rank b.1))
    (entries.filter fun entry => (index? entry.1).isSome)
  refine List.pairwise_append.2 ⟨hindices.imp_of_mem ?_, (h.filter _).imp_of_mem ?_, ?_⟩
  · intro a b ha hb hle
    rw [List.mem_mergeSort, List.mem_filter, isSome_index?_iff] at ha hb
    rwa [compareKeys_of_isIndex ha.2 hb.2]
  · intro a b ha hb hle
    rw [List.mem_filter, Bool.not_eq_true', ← Bool.not_eq_true, isSome_index?_iff] at ha hb
    rwa [compareKeys_of_not_isIndex ha.2 hb.2]
  · intro a ha b hb
    rw [List.mem_mergeSort, List.mem_filter, isSome_index?_iff] at ha
    rw [List.mem_filter, Bool.not_eq_true', ← Bool.not_eq_true, isSome_index?_iff] at hb
    obtain ⟨n, hn, hkey⟩ := ha.2
    rw [hkey, compareKeys_eq_lt_iff.2 (.index hn hb.2)]
    rfl

/-- Sorting the entries by their code units and storing them in a record one after another, where the
lost key keeps nothing, comes to the same. -/
theorem sortEntries_eq_listed :
    sortEntries entries =
      listed ((entries.mergeSort fun a b => (Text.compareUnits a.1 b.1).isLE).filter
        fun entry => entry.1 != lostKey) := by
  have := transCmp_comap Text.compareUnits (Prod.fst : Text × α → Text)
  have hunits := Text.pairwise_mergeSort_isLE (fun a b : Text × α => Text.compareUnits a.1 b.1) entries
  apply sortEntries_eq_of_pairwise hkeys
  · exact (listed_perm _).trans ((List.mergeSort_perm _ _).filter _)
  · exact pairwise_listed (hunits.filter _)

theorem pairwise_precedes_sortEntries : ((sortEntries entries).map Prod.fst).Pairwise Precedes := by
  have hnodup : (sortEntries entries).Pairwise fun a b => a.1 ≠ b.1 := by
    rw [← List.pairwise_map]
    exact ((sortEntries_perm entries).map Prod.fst).nodup_iff.2
      (hkeys.sublist ((List.filter_sublist).map Prod.fst))
  rw [List.pairwise_map]
  refine ((pairwise_sortEntries entries).and hnodup).imp fun {a b} h => ?_
  rw [← compareKeys_eq_lt_iff]
  cases hcmp : compareKeys a.1 b.1 with
  | lt => rfl
  | eq => exact absurd (eq_of_compareKeys_eq hcmp) h.2
  | gt => rw [hcmp] at h; cases h.1

end

end SourceBook.Data
