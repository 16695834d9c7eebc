import SourceBook.CommandLine.Plan
import SourceBook.Proofs.Document.Numbering
import SourceBook.Proofs.Path.Join
import SourceBook.Proofs.Text.Occurrences

namespace SourceBook.CommandLine

open SourceBook.Path (IsName)
open SourceBook.Text (occurrencesFrom mem_occurrencesFrom)

def numbered (base : Text) (n : Nat) : Text := if n = 1 then base else base ++ '-' :: (toString n).toList

/-- No name is the numbered form of one that occurs so often. -/
def NumbersFree (bases : List Text) : Prop :=
  ∀ base ∈ bases, ∀ other ∈ bases, ∀ n ≤ bases.count base, 2 ≤ n → other ≠ numbered base n

instance (bases : List Text) : Decidable (NumbersFree bases) :=
  inferInstanceAs (Decidable (∀ base ∈ bases, ∀ other ∈ bases, ∀ n ≤ bases.count base, 2 ≤ n → _))

theorem stemsFrom_eq (cwd : Location) (earlier sources : List Text) :
    stemsFrom cwd earlier sources =
      (occurrencesFrom earlier (sources.map (stem cwd))).map fun p => numbered p.1 p.2 := by
  induction sources generalizing earlier with
  | nil => rfl
  | cons source sources ih =>
      rw [stemsFrom, ih]
      rfl

theorem numbered_inj {a b : Text} {m n : Nat} (hm : m ≠ 1) (hn : n ≠ 1)
    (h : numbered a m = numbered b n) : a = b ∧ m = n := by
  rw [numbered, numbered, if_neg hm, if_neg hn] at h
  exact Document.append_number_inj (by decide) h

theorem nodup_stemsFrom_iff (cwd : Location) (sources : List Text) :
    (stemsFrom cwd [] sources).Nodup ↔ NumbersFree (sources.map (stem cwd)) := by
  have hfirst (base : Text) : numbered base 1 = base := rfl
  have hinj (a b : Text) (m n : Nat) (hm : 1 < m) (hn : 1 < n) (h : numbered a m = numbered b n) :
      a = b ∧ m = n := numbered_inj hm.ne' hn.ne' h
  rw [stemsFrom_eq]
  exact Text.nodup_map_mark_iff (fun p => numbered p.1 p.2) hfirst hinj _

section

variable {cwd : Location} (hcwd : ∀ name ∈ cwd, IsName name)

include hcwd

theorem isName_stem (source : Text) : IsName (stem cwd source) := by
  rw [stem]
  cases hlast : (Path.resolve cwd source).getLast? with
  | none => decide
  | some name => exact Path.isName_of_mem_resolve hcwd (List.mem_of_getLast? hlast)

theorem slash_not_mem_of_mem_stemsFrom {earlier sources : List Text} {name : Text}
    (h : name ∈ stemsFrom cwd earlier sources) : '/' ∉ name := by
  rw [stemsFrom_eq] at h
  obtain ⟨⟨base, n⟩, hp, rfl⟩ := List.mem_map.1 h
  have hbase : base ∈ sources.map (stem cwd) := by
    obtain ⟨hlt, hle⟩ := mem_occurrencesFrom.1 hp
    exact List.count_pos_iff.1 (Nat.lt_add_right_iff_pos.1 (hlt.trans_le hle))
  obtain ⟨source, -, rfl⟩ := List.mem_map.1 hbase
  have hslash := (isName_stem hcwd source).2
  rw [numbered]
  split_ifs
  · exact hslash
  · intro hmem
    rcases List.mem_append.1 hmem with hmem | hmem
    · exact hslash hmem
    · rcases List.mem_cons.1 hmem with hmem | hmem
      · exact absurd hmem (by decide)
      · exact Document.not_mem_toString (by decide) n hmem

theorem nodup_map_join_iff (sources : List Text) (out : Text) :
    ((stemsFrom cwd [] sources).map fun name => Path.join out (name ++ ".md".toList)).Nodup ↔
      NumbersFree (sources.map (stem cwd)) := by
  rw [← nodup_stemsFrom_iff]
  refine ⟨List.Nodup.of_map _, List.Nodup.map_on ?_⟩
  obtain ⟨start, hstart⟩ := Path.exists_join_eq out
  have hjoin : ∀ name ∈ stemsFrom cwd [] sources,
      Path.join out (name ++ ".md".toList) = start ++ (name ++ ".md".toList) := by
    intro name h
    have hlong : ∀ short : Text, short.length ≤ 2 → name ++ ".md".toList ≠ short := by
      rintro short hle rfl
      rw [List.length_append] at hle
      exact absurd hle (by simp)
    refine hstart _ ⟨hlong _ (by decide), ?_⟩ (hlong _ (by decide)) (hlong _ (by decide))
    rw [List.mem_append, not_or]
    exact ⟨slash_not_mem_of_mem_stemsFrom hcwd h, by decide⟩
  intro a ha b hb h
  rw [hjoin a ha, hjoin b hb] at h
  exact List.append_cancel_right (List.append_cancel_left h)

end

theorem reportFor_injective (report : Text) : Function.Injective (reportFor report) := by
  intro a b h
  rw [reportFor, reportFor] at h
  have hmiddle := List.append_cancel_left (List.append_cancel_right h)
  exact List.tail_eq_of_cons_eq hmiddle

theorem zipWith_stemsFrom {β : Type} (f : Text → β) (cwd : Location) (earlier sources : List Text) :
    List.zipWith (fun _ name => f name) sources (stemsFrom cwd earlier sources) =
      (stemsFrom cwd earlier sources).map f := by
  induction sources generalizing earlier with
  | nil => rfl
  | cons source sources ih => rw [stemsFrom, List.zipWith_cons_cons, ih, List.map_cons]

theorem plans_cases (cwd : Location) (sources : List Text) (out : Text) (report : Option Text) :
    (∃ source, sources = [source] ∧ plans cwd sources out report = [⟨source, out, report⟩]) ∨
      (plans cwd sources out report).map Plan.out =
          (stemsFrom cwd [] sources).map (fun name => Path.join out (name ++ ".md".toList)) ∧
        (plans cwd sources out report).map Plan.report = (stemsFrom cwd [] sources).map fun name =>
          (report.filter fun r => !r.isEmpty).map fun r => reportFor r name := by
  by_cases hone : ∃ source, sources = [source]
  · obtain ⟨source, rfl⟩ := hone
    exact .inl ⟨source, rfl, rfl⟩
  · right
    rw [plans]
    · rw [List.map_zipWith, List.map_zipWith, zipWith_stemsFrom, zipWith_stemsFrom]
      exact ⟨rfl, rfl⟩
    · intro source h
      exact hone ⟨source, h⟩

/-- The documents of a run have paths of their own exactly if no numbered name is the name of a root, and
its reports have, if there are any, under the same condition. -/
theorem plans_nodup_iff {cwd : Location} (hcwd : ∀ name ∈ cwd, IsName name) (sources : List Text)
    (out : Text) (report : Option Text) :
    (((plans cwd sources out report).map Plan.out).Nodup ↔ NumbersFree (sources.map (stem cwd))) ∧
      (((plans cwd sources out report).filterMap Plan.report).Nodup ↔
        NumbersFree (sources.map (stem cwd)) ∨ (report.filter fun r => !r.isEmpty) = none) := by
  rcases plans_cases cwd sources out report with ⟨source, rfl, hplans⟩ | ⟨houts, hreports⟩
  · have hfree : NumbersFree ([source].map (stem cwd)) := by
      rw [← nodup_stemsFrom_iff]
      exact List.nodup_singleton _
    rw [hplans]
    refine ⟨iff_of_true (List.nodup_singleton _) hfree, iff_of_true ?_ (.inl hfree)⟩
    cases report <;> simp
  · have hfilter : (plans cwd sources out report).filterMap Plan.report =
        ((plans cwd sources out report).map Plan.report).filterMap id := by
      rw [List.filterMap_map]
      rfl
    rw [houts, nodup_map_join_iff hcwd, hfilter, hreports, ← nodup_stemsFrom_iff]
    refine ⟨Iff.rfl, ?_⟩
    cases report.filter fun r => !r.isEmpty with
    | none => simp
    | some r =>
        simp only [Option.map_some, List.filterMap_map, Function.comp_def, id_eq, List.filterMap_eq_map',
          List.nodup_map_iff (reportFor_injective r), reduceCtorEq, or_false]

theorem plans_nodup_iff_three :
    (∀ name ∈ ["w".toList], IsName name) ∧
      ((plans ["w".toList] ["a/app".toList, "b/app".toList, "lib".toList] "out".toList none).map
        Plan.out).Nodup := by
  have hcwd : ∀ name ∈ ["w".toList], IsName name := by decide
  exact ⟨hcwd, (plans_nodup_iff hcwd _ _ _).1.2 (by decide +kernel)⟩

/-- The second `x` takes the name of `x-2`. -/
theorem plans_not_nodup :
    ¬ ((plans ["w".toList] ["a/x".toList, "b/x".toList, "c/x-2".toList] "out".toList
        (some "r.json".toList)).map Plan.out).Nodup ∧
      ¬ ((plans ["w".toList] ["a/x".toList, "b/x".toList, "c/x-2".toList] "out".toList
        (some "r.json".toList)).filterMap Plan.report).Nodup := by
  decide +kernel

end SourceBook.CommandLine
