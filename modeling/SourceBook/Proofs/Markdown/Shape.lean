import SourceBook.Proofs.Markdown.OpeningLine

namespace SourceBook.Markdown

theorem not_infix_normalize (content : Text) : ¬ ['\n', '\n', '\n'] <:+: normalize content := by
  intro hinfix
  obtain ⟨above, below, ha, hb, hs⟩ := (Text.three_breaks_infix_iff _).1 hinfix
  have htidy := (tidy_beforeWrapping content).1
  obtain ⟨kept, n, hk, hlast⟩ := exists_kept_wrapCode htidy.trimmed
  rw [normalize_eq] at hs
  rcases noGap_endWithBreak hk hlast (fun _ _ => noGap_wrapCode htidy) hs with h | h
  · exact ha h
  · exact hb h

theorem visible_normalize_eq_nil_iff (content : Text) :
    Text.visible (normalize content) = [] ↔ Text.visible content = [] := by
  rw [visible_normalize]
  split_ifs with htitled
  · rfl
  · refine iff_of_false (by simp) fun hnone => htitled ?_
    rw [firstVisibleLine?_eq_none_iff.2 hnone]
    rfl

theorem normalize_eq_break_iff (content : Text) :
    normalize content = ['\n'] ↔ Text.allBlank content = true := by
  rw [← Text.visible_eq_nil_iff, ← visible_normalize_eq_nil_iff]
  constructor
  · intro h
    rw [h]
    rfl
  · intro h
    have hframed := framed_endWithBreak (wrapCode (beforeWrapping content))
    rw [← normalize_eq] at hframed
    rcases hframed with hbreak | ⟨body, c, hbody, hc⟩
    · exact hbreak
    · have hmem : c ∈ normalize content := by
        rw [hbody]
        simp
      rw [Text.visible_eq_nil_iff, Text.allBlank_eq_false hmem hc] at h
      cases h

/-- A blank document becomes one line feed. Any other opens with a title and closes with one line feed
behind a visible character. No line breaks but line feeds are left, no tabs, no two empty lines in a
row, and no spaces at the end of a line. -/
theorem shape_normalize (content : Text) :
    (normalize content = ['\n'] ↔ Text.allBlank content = true) ∧
      (Text.allBlank content = false → Titled (Text.lines (normalize content)) ∧
        ∃ body c, normalize content = body ++ [c, '\n'] ∧ Text.isBlank c = false) ∧
      '\r' ∉ normalize content ∧ '\t' ∉ normalize content ∧
      ¬ ['\n', '\n', '\n'] <:+: normalize content ∧
      ∀ line ∈ Text.lines (normalize content), line.getLast? ≠ some ' ' := by
  have htidy := (tidy_beforeWrapping content).1
  refine ⟨normalize_eq_break_iff content, fun hvisible => ?_,
    not_mem_normalize (by decide) (by decide) htidy.noReturn,
    not_mem_normalize (by decide) (by decide) htidy.noTab, not_infix_normalize content,
    fun line => getLast?_of_mem_lines_normalize⟩
  have hbreak : normalize content ≠ ['\n'] := by
    rw [ne_eq, normalize_eq_break_iff, hvisible]
    decide
  have hframed := framed_endWithBreak (wrapCode (beforeWrapping content))
  rw [← normalize_eq] at hframed
  exact ⟨(titled_normalize content).resolve_left hbreak, hframed.resolve_left hbreak⟩

/-- One wrapped line of code: a no-break space is left at the end of a segment, and no space is. -/
theorem shape_normalize_looseLine :
    Text.allBlank ("```\n".toList ++ looseLine) = false ∧
      Titled (Text.lines (normalize ("```\n".toList ++ looseLine))) ∧
      List.replicate 117 'a' ++ ['\u00a0'] ∈ Text.lines (normalize ("```\n".toList ++ looseLine)) ∧
      (List.replicate 117 'a' ++ ['\u00a0']).getLast? ≠ some ' ' := by
  have hvisible : Text.allBlank ("```\n".toList ++ looseLine) = false := by decide +kernel
  have hline : List.replicate 117 'a' ++ ['\u00a0'] ∈
      Text.lines (normalize ("```\n".toList ++ looseLine)) := by decide +kernel
  obtain ⟨-, hshape, -, -, -, hends⟩ := shape_normalize ("```\n".toList ++ looseLine)
  exact ⟨hvisible, (hshape hvisible).1, hline, hends _ hline⟩

end SourceBook.Markdown
