import SourceBook.Proofs.Text.Breaks
import SourceBook.Proofs.Text.Trim

namespace SourceBook.Text

theorem visible_cons (c : Char) (text : Text) : visible (c :: text) = visible [c] ++ visible text :=
  visible_append [c] text

theorem visible_eq_nil_iff {text : Text} : visible text = [] ↔ allBlank text = true := by
  simp [visible, allBlank, List.filter_eq_nil_iff]

theorem visible_replaceChar {c : Char} {inserted : Text} (hc : isBlank c = true)
    (h : visible inserted = []) (text : Text) : visible (replaceChar c inserted text) = visible text := by
  induction text with
  | nil => rfl
  | cons d text ih =>
      rw [replaceChar] at ih ⊢
      rw [List.flatMap_cons, visible_append, ih, visible_cons d]
      by_cases hd : d = c
      · have hvisible : visible [d] = [] := visible_eq_nil_iff.2 (by simp [allBlank, hd, hc])
        rw [if_pos hd, h, hvisible]
      · rw [if_neg hd]

theorem visible_unifyFrom (before : Char) (text : Text) :
    visible (unifyFrom before text) = visible text := by
  induction text generalizing before with
  | nil => rfl
  | cons c text ih =>
      rw [unifyFrom_cons, visible_append, ih, visible_cons c]
      split_ifs with hr hn
      · rw [hr]
        rfl
      · rw [hn.1]
        rfl
      · rfl

theorem visible_unlines (pieces : List Text) : visible (unlines pieces) = pieces.flatMap visible :=
  filter_unlines rfl pieces

theorem flatMap_visible_lines (text : Text) : (lines text).flatMap visible = visible text := by
  rw [← visible_unlines, unlines_lines]

theorem flatMap_visible_breakLines (text : Text) : (breakLines text).flatMap visible = visible text := by
  rw [breakLines, flatMap_visible_lines, unifyBreaks_eq_unifyFrom, visible_unifyFrom]

end SourceBook.Text
