import SourceBook.Report.Basic
import Mathlib.Algebra.BigOperators.Group.List.Basic
import Mathlib.Algebra.Ring.Nat

namespace SourceBook

def Finding.isOf (kind : Text) (finding : Finding) : Bool := finding.kind == kind

theorem Counts.sum_bump {name : Text} (h : name ≠ Data.lostKey) (counts : Counts) :
    ((counts.bump name).map Prod.snd).sum = (counts.map Prod.snd).sum + 1 := by
  induction counts with
  | nil => simp [bump, h]
  | cons count counts ih =>
      obtain ⟨other, n⟩ := count
      rw [bump]
      split_ifs
      · simp only [List.map_cons, List.sum_cons]
        omega
      · simp only [List.map_cons, List.sum_cons, ih]
        omega

namespace Report

def places (p : Finding → Bool) (report : Report) : List Text :=
  (report.findings.filter p).map Finding.place

theorem places_record (p : Finding → Bool) (report : Report) (finding : Finding) :
    (report.record finding).places p = report.places p ++ if p finding then [finding.place] else [] := by
  rw [places, findings_record, List.filter_append, List.map_append]
  cases h : p finding <;> simp [places, h]

theorem places_record_of_true {p : Finding → Bool} {finding : Finding} (h : p finding = true)
    (report : Report) : (report.record finding).places p = report.places p ++ [finding.place] := by
  rw [places_record, h, if_pos rfl]

theorem places_record_of_false {p : Finding → Bool} {finding : Finding} (h : p finding = false)
    (report : Report) : (report.record finding).places p = report.places p := by
  rw [places_record, h, if_neg (by decide), List.append_nil]

def atLimit (report : Report) : List Text := report.places (Finding.isOf Finding.totalLimit)

def refused (report : Report) : List Text :=
  report.places fun finding => finding.isSkip && !finding.isOf Finding.totalLimit

theorem skipped_record (report : Report) (finding : Finding) :
    (report.record finding).skipped = report.skipped + if finding.isSkip then 1 else 0 := rfl

end Report

end SourceBook
