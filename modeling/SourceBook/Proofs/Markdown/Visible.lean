import SourceBook.Proofs.Markdown.Ending
import SourceBook.Proofs.Markdown.Failing
import SourceBook.Proofs.Text.Visible

namespace SourceBook.Markdown

theorem visible_cleanLine (line : Text) : Text.visible (cleanLine line) = Text.visible line := by
  rw [cleanLine, Text.visible_trimEnd]
  exact Text.visible_replaceChar rfl rfl line

theorem visible_cleanBlanks (content : Text) :
    Text.visible (cleanBlanks content) = Text.visible content := by
  rw [← Text.flatMap_visible_lines, lines_cleanBlanks, List.flatMap_map,
    ← Text.flatMap_visible_breakLines content]
  simp only [visible_cleanLine]

theorem flatMap_visible_dropTopBlank (pieces : List Text) :
    (dropTopBlank pieces).flatMap Text.visible = pieces.flatMap Text.visible := by
  induction pieces with
  | nil => rfl
  | cons line rest ih =>
      cases rest with
      | nil => rfl
      | cons next rest =>
          rw [dropTopBlank]
          split
          · next hs =>
              have hline : Text.visible line = [] := by
                rw [Text.visible_eq_nil_iff, Text.allBlank, List.all_eq_true]
                intro c hc
                have hsc := List.all_eq_true.1 hs c hc
                rw [Bool.or_eq_true, beq_iff_eq, beq_iff_eq] at hsc
                rcases hsc with rfl | rfl <;> rfl
              rw [ih, List.flatMap_cons (x := line), hline, List.nil_append]
          · rfl

theorem visible_dropTopBlank (content : Text) :
    Text.visible (Text.unlines (dropTopBlank (Text.lines content))) = Text.visible content := by
  rw [Text.visible_unlines, flatMap_visible_dropTopBlank, Text.flatMap_visible_lines]

theorem visible_wrapCode (content : Text) : Text.visible (wrapCode content) = Text.visible content :=
  filter_wrapCode rfl rfl content

theorem visible_endWithBreak (content : Text) :
    Text.visible (endWithBreak content) = Text.visible content := by
  rw [endWithBreak, Text.visible_append, Text.visible_trimEnd]
  exact List.append_nil _

/-- The visible characters of `done` are those of `content`, alone or behind the title. -/
def TitledCopy (content done : Text) : Prop :=
  Text.visible done = Text.visible content ∨
    Text.visible done = "#SourceCodeExport".toList ++ Text.visible content

theorem titledCopy_ensureTitle (content : Text) :
    TitledCopy content (ensureTitle defaultTitle content) := by
  rcases ensureTitle_eq_or defaultTitle content with h | h
  · rw [TitledCopy, h, visible_dropTopBlank]
    exact .inl rfl
  · rw [TitledCopy, h, Text.visible_append, visible_dropTopBlank]
    exact .inr rfl

def Pass.failingOn (pass : Pass) (fault : Text → Option Text) : Pass :=
  { pass with apply := fun content =>
      match fault content with
      | some message => .error message
      | none => pass.apply content }

/-- The passes of normalization with faults. A fault is looked up by the name of the pass and the
document that it gets. -/
def faultyPasses (faults : Text → Text → Option Text) : List Pass :=
  normalizePasses.map fun pass => pass.failingOn (faults pass.name)

section

variable (name : Text) (fault : Text → Option Text) (content : Text)

theorem result_failingOn_total (apply : Text → Text) :
    ((Pass.total name apply).failingOn fault).result content = content ∨
      ((Pass.total name apply).failingOn fault).result content = apply content := by
  cases h : fault content with
  | none => exact .inr (by simp [Pass.result, Pass.failingOn, Pass.total, h])
  | some message => exact .inl (by simp [Pass.result, Pass.failingOn, h])

theorem visible_result_failingOn {apply : Text → Text}
    (h : ∀ content, Text.visible (apply content) = Text.visible content) :
    Text.visible (((Pass.total name apply).failingOn fault).result content) = Text.visible content := by
  rcases result_failingOn_total name fault content apply with hr | hr
  · rw [hr]
  · rw [hr, h]

theorem titledCopy_result_failingOn :
    TitledCopy content (((Pass.total name (ensureTitle defaultTitle)).failingOn fault).result content) := by
  rcases result_failingOn_total name fault content (ensureTitle defaultTitle) with hr | hr
  · rw [hr]
    exact .inl rfl
  · rw [hr]
    exact titledCopy_ensureTitle content

end

/-- Whichever passes fail, the visible characters stay, behind the title or not. -/
theorem titledCopy_faultyPasses (faults : Text → Text → Option Text) (content : Text) :
    TitledCopy content (runPasses (faultyPasses faults) content).content := by
  rw [content_runPasses, TitledCopy]
  simp only [faultyPasses, normalizePasses, List.map_cons, List.map_nil, List.foldl_cons, List.foldl_nil]
  rw [visible_result_failingOn _ _ _ visible_endWithBreak, visible_result_failingOn _ _ _ visible_wrapCode]
  have hbefore {text : Text} (h : Text.visible text = Text.visible content) (name : Text)
      (fault : Text → Option Text) :
      TitledCopy content
        (((Pass.total name (ensureTitle defaultTitle)).failingOn fault).result text) := by
    rw [TitledCopy, ← h]
    exact titledCopy_result_failingOn name fault text
  refine hbefore ?_ _ _
  rw [visible_result_failingOn _ _ _ (filter_collapseBlankLines rfl),
    visible_result_failingOn _ _ _ (filter_spaceHeadings rfl),
    visible_result_failingOn _ _ _ (filter_spaceHeadingMarks rfl rfl),
    visible_result_failingOn _ _ _ visible_cleanBlanks]

end SourceBook.Markdown
