import SourceBook.Proofs.Markdown.FixedPoints
import SourceBook.Proofs.Markdown.Visible

namespace SourceBook.Markdown

def openingLine? (lines : List Text) : Option Text := lines.find? fun line => !line.isEmpty

@[simp] theorem openingLine?_nil_cons (lines : List Text) :
    openingLine? ([] :: lines) = openingLine? lines := rfl

theorem openingLine?_cons {line : Text} (h : line ≠ []) (lines : List Text) :
    openingLine? (line :: lines) = some line :=
  List.find?_cons_of_pos (by simpa using h)

theorem openingLine?_replicate_append (n : Nat) (lines : List Text) :
    openingLine? (List.replicate n [] ++ lines) = openingLine? lines := by
  induction n with
  | zero => rfl
  | succ n ih => rw [List.replicate_succ, List.cons_append, openingLine?_nil_cons, ih]

theorem openingLine?_map_cleanLine (pieces : List Text) :
    openingLine? (pieces.map cleanLine) =
      (pieces.find? fun line => !Text.allBlank line).map cleanLine := by
  have hempty (line : Text) : (cleanLine line).isEmpty = Text.allBlank line := by
    rw [Bool.eq_iff_iff, List.isEmpty_iff, ← Text.visible_eq_nil_iff, ← visible_cleanLine,
      Text.visible_eq_nil_iff]
    constructor
    · intro h
      rw [h]
      rfl
    · exact Text.eq_nil_of_allBlank (trimEnd_cleanLine line)
  rw [openingLine?, List.find?_map]
  simp only [Function.comp_def, hempty]

theorem spaceMarks_ne_nil {line : Text} (h : line ≠ []) : spaceMarks line ≠ [] := by
  rcases spaceMarks_cases line with ⟨-, hs⟩ | ⟨n, c, rest, -, -, -, hs⟩
  · rwa [hs]
  · simp [hs]

theorem openingLine?_map_markLine (lines : List Text) :
    openingLine? ((kinded lines).map markLine) =
      (openingLine? lines).map fun line => markLine (line, (kindAt none line).1) := by
  rw [kinded_eq_kindedFrom]
  induction lines with
  | nil => rfl
  | cons line lines ih =>
      rw [kindedFrom_cons, List.map_cons]
      by_cases hl : line = []
      · subst hl
        rw [kindAt_nil]
        exact ih
      · rw [openingLine?_cons hl, openingLine?_cons, Option.map_some]
        rw [markLine]
        split
        · exact spaceMarks_ne_nil hl
        · exact hl

theorem openingLine?_spaced (clear : Bool) (lines : List Text) :
    openingLine? (spaced clear none lines) = openingLine? lines := by
  induction lines generalizing clear with
  | nil => rfl
  | cons line lines ih =>
      by_cases hl : line = []
      · subst hl
        rw [spaced_cons_of_not_heading (isHeadingLine_nil _), kindAt_nil]
        exact ih true
      · rw [openingLine?_cons hl]
        cases hh : isHeadingLine (line, (kindAt none line).1) with
        | false => rw [spaced_cons_of_not_heading hh, openingLine?_cons hl]
        | true =>
            rw [spaced_cons_of_heading hh]
            cases clear
            · exact openingLine?_cons hl _
            · exact openingLine?_cons hl _

theorem openingLine?_squeeze (lines : List Text) : openingLine? (squeeze lines) = openingLine? lines := by
  induction lines with
  | nil => rfl
  | cons line lines ih =>
      rw [squeeze_cons]
      rcases squeezeCons_cases line (squeeze lines) with ⟨last, rest, hb, hs⟩ | ⟨-, hs⟩
      · rw [hb] at ih
        rw [hs]
        by_cases hl : line = []
        · subst hl
          exact ih
        · rw [openingLine?_cons hl, openingLine?_cons hl]
      · rw [hs]
        by_cases hl : line = []
        · subst hl
          exact ih
        · rw [openingLine?_cons hl, openingLine?_cons hl]

/-- Trimmed lines get the title exactly if the first one that is not empty is none. -/
theorem visible_ensureTitle {content : Text} (h : ∀ line ∈ Text.lines content, Text.trimEnd line = line) :
    Text.visible (ensureTitle defaultTitle content) =
      if (openingLine? (Text.lines content)).all isTitle then Text.visible content
      else "#SourceCodeExport".toList ++ Text.visible content := by
  obtain ⟨n, first, rest, hs, hd, hf⟩ := exists_dropTopBlank (Text.lines_ne_nil content) h
  have hbody := visible_dropTopBlank content
  have hopening : openingLine? (Text.lines content) = openingLine? (first :: rest) := by
    rw [hs, openingLine?_replicate_append]
  rw [hd] at hbody
  rw [ensureTitle, hd, hopening]
  by_cases hempty : first = []
  · rw [hf hempty, hempty] at hbody ⊢
    exact hbody
  · have hblank : (first :: rest).all Text.allBlank = false := by
      have htrim : Text.trimEnd first = first := h first (by rw [hs]; simp)
      rw [List.all_cons, Bool.and_eq_false_iff]
      exact .inl (Bool.eq_false_iff.2 fun hb => hempty (Text.eq_nil_of_allBlank htrim hb))
    rw [openingLine?_cons hempty, hblank, Bool.false_or, Option.all_some]
    cases ht : isTitle first with
    | true => rw [if_pos (by simp [kinded_eq_kindedFrom, kindAt_of_isTitle ht, ht]), if_pos rfl, hbody]
    | false =>
        rw [if_neg (by simp [kinded_eq_kindedFrom, ht]), if_neg (by decide), Text.visible_append, hbody]
        rfl

def OpensTitle (line : Text) : Prop := ∃ c rest, line = '#' :: c :: rest ∧ c ≠ '#'

theorem opensTitle_of_isTitle {line : Text} (h : isTitle line = true) : OpensTitle line := by
  rw [isTitle.eq_def] at h
  split at h
  · next c rest =>
      refine ⟨c, rest, rfl, ?_⟩
      rintro rfl
      exact absurd h (by decide)
  · exact absurd h (by decide)

theorem isTitle_spaceMarks_iff (line : Text) : isTitle (spaceMarks line) = true ↔ OpensTitle line := by
  rcases spaceMarks_cases line with ⟨hn, hs⟩ | ⟨n, c, rest, rfl, hc, -, hs⟩
  · rw [hs]
    refine ⟨opensTitle_of_isTitle, ?_⟩
    rintro ⟨c, rest, rfl, hc⟩
    by_contra hb
    exact hn ⟨0, c, rest, rfl, hc, by simpa [isTitle] using hb⟩
  · rw [hs]
    cases n with
    | zero => exact iff_of_true rfl ⟨c, rest, rfl, hc⟩
    | succ n =>
        refine iff_of_false (by simp [List.replicate_succ, isTitle, Text.isBlank]) ?_
        rintro ⟨d, rest', hd, hne⟩
        simp only [List.replicate_succ, List.cons_append, List.cons.injEq] at hd
        exact hne hd.2.1.symm

theorem isTitle_markLine_iff (line : Text) :
    isTitle (markLine (line, (kindAt none line).1)) = true ↔ OpensTitle line := by
  rw [markLine]
  split
  · exact isTitle_spaceMarks_iff line
  · next hk =>
      refine ⟨opensTitle_of_isTitle, ?_⟩
      rintro ⟨c, rest, rfl, -⟩
      rw [kindAt_of_head? (by simp [tick])] at hk
      exact absurd rfl hk

theorem head?_trimEnd {text : Text} (h : Text.allBlank text = false) :
    (Text.trimEnd text).head? = text.head? := by
  have hne : Text.trimEnd text ≠ [] := fun hn => by
    rw [Text.trimEnd_eq_nil_iff, h] at hn
    exact absurd hn (by decide)
  obtain ⟨c, rest, hc⟩ := List.exists_cons_of_ne_nil hne
  obtain ⟨tail, ht⟩ := Text.trimEnd_isPrefix text
  rw [hc] at ht ⊢
  rw [← ht]
  rfl

theorem opensTitle_cons_iff {c : Char} {text : Text} :
    OpensTitle (c :: text) ↔ c = '#' ∧ ∃ d ∈ text.head?, d ≠ '#' := by
  cases text <;> simp [OpensTitle]

theorem cleanLine_of_allBlank {line : Text} (h : Text.allBlank line = true) : cleanLine line = [] := by
  rw [← Text.visible_eq_nil_iff, ← visible_cleanLine, Text.visible_eq_nil_iff] at h
  exact Text.eq_nil_of_allBlank (trimEnd_cleanLine line) h

theorem head?_cleanLine {line : Text} (h : Text.allBlank line = false) :
    (cleanLine line).head? = line.head?.map fun c => if c = '\t' then ' ' else c := by
  have hreplaced : Text.allBlank (Text.replaceChar '\t' (List.replicate 4 ' ') line) = false := by
    rw [Bool.eq_false_iff, ne_eq, ← Text.visible_eq_nil_iff, Text.visible_replaceChar rfl rfl,
      Text.visible_eq_nil_iff, h]
    decide
  rw [cleanLine, head?_trimEnd hreplaced]
  cases line with
  | nil => rfl
  | cons c line =>
      rw [Text.replaceChar, List.flatMap_cons, List.head?_cons, Option.map_some]
      split_ifs <;> rfl

/-- Spaces for tabs do not change whether a line opens a title. -/
theorem opensTitle_cleanLine_iff (line : Text) :
    OpensTitle (cleanLine line) ↔ OpensTitle (Text.trimEnd line) := by
  cases line with
  | nil => rfl
  | cons c rest =>
      by_cases hc : c = '#'
      · subst hc
        have hclean : cleanLine ('#' :: rest) = '#' :: cleanLine rest := by
          simp [cleanLine, Text.replaceChar, Text.trimEnd_cons, Text.isBlank]
        have htrim : Text.trimEnd ('#' :: rest) = '#' :: Text.trimEnd rest := by
          simp [Text.trimEnd_cons, Text.isBlank]
        rw [hclean, htrim, opensTitle_cons_iff, opensTitle_cons_iff]
        cases hb : Text.allBlank rest with
        | true => rw [cleanLine_of_allBlank hb, Text.trimEnd_eq_nil_iff.2 hb]
        | false =>
            rw [head?_cleanLine hb, head?_trimEnd hb]
            cases rest with
            | nil => simp
            | cons d rest =>
                by_cases hd : d = '\t' <;> simp [hd]
      · have hhead {text : Text} (h : OpensTitle text) : text.head? = some '#' := by
          obtain ⟨d, rest, rfl, -⟩ := h
          rfl
        cases hb : Text.allBlank (c :: rest) with
        | true => rw [cleanLine_of_allBlank hb, Text.trimEnd_eq_nil_iff.2 hb]
        | false =>
            refine iff_of_false (fun h => ?_) fun h => ?_
            · have hfirst := hhead h
              rw [head?_cleanLine hb, List.head?_cons, Option.map_some, Option.some_inj] at hfirst
              split_ifs at hfirst with htab
              · exact absurd hfirst (by decide)
              · exact hc hfirst
            · have hfirst := hhead h
              rw [head?_trimEnd hb, List.head?_cons, Option.some_inj] at hfirst
              exact hc hfirst

def firstVisibleLine? (content : Text) : Option Text :=
  (Text.breakLines content).find? fun line => !Text.allBlank line

/-- The lines before the fifth pass open with what the first and second pass make of the first line
that is not blank. -/
theorem openingLine?_collapseBlankLines (content : Text) :
    openingLine? (Text.lines (collapseBlankLines (spaceHeadings (spaceHeadingMarks
        (cleanBlanks content))))) =
      (firstVisibleLine? content).map fun line =>
        markLine (cleanLine line, (kindAt none (cleanLine line)).1) := by
  rw [lines_collapseBlankLines, openingLine?_squeeze, lines_spaceHeadings, openingLine?_spaced,
    lines_spaceHeadingMarks, openingLine?_map_markLine, lines_cleanBlanks, openingLine?_map_cleanLine,
    Option.map_map, firstVisibleLine?]
  rfl

theorem visible_normalize (content : Text) :
    Text.visible (normalize content) =
      if ((firstVisibleLine? content).all fun line =>
          isTitle (markLine (cleanLine line, (kindAt none (cleanLine line)).1))) then
        Text.visible content
      else "#SourceCodeExport".toList ++ Text.visible content := by
  have htidy := tidy_collapseBlankLines (clean_spaceHeadings (clean_spaceHeadingMarks content))
    (apart_spaceHeadings _)
  have hkept : Text.visible (collapseBlankLines (spaceHeadings (spaceHeadingMarks
      (cleanBlanks content)))) = Text.visible content := by
    rw [Text.visible, filter_collapseBlankLines rfl, filter_spaceHeadings rfl,
      filter_spaceHeadingMarks rfl rfl]
    exact visible_cleanBlanks content
  rw [normalize_eq, visible_endWithBreak, visible_wrapCode, beforeWrapping,
    visible_ensureTitle htidy.trimmed, hkept, openingLine?_collapseBlankLines, Option.all_map]

theorem firstVisibleLine?_eq_none_iff {content : Text} :
    firstVisibleLine? content = none ↔ Text.visible content = [] := by
  rw [firstVisibleLine?, List.find?_eq_none, ← Text.flatMap_visible_breakLines, List.flatMap_eq_nil_iff]
  simp [Text.visible_eq_nil_iff]

/-- Whichever passes fail, the visible characters stay in order, behind those of the title or not. When
none fails they stand behind the title exactly if there are some and the first line that is not blank,
trimmed, does not start with one number sign and something else. -/
theorem visible_normalization (content : Text) :
    (∀ faults, TitledCopy content (runPasses (faultyPasses faults) content).content) ∧
      (Text.visible (normalize content) = "#SourceCodeExport".toList ++ Text.visible content ↔
        Text.visible content ≠ [] ∧
          ∀ line ∈ firstVisibleLine? content, ¬ OpensTitle (Text.trimEnd line)) := by
  refine ⟨fun faults => titledCopy_faultyPasses faults content, ?_⟩
  rw [visible_normalize]
  cases hf : firstVisibleLine? content with
  | none =>
      rw [firstVisibleLine?_eq_none_iff] at hf
      simp [hf]
  | some line =>
      have hne : Text.visible content ≠ [] := by
        rw [ne_eq, ← firstVisibleLine?_eq_none_iff, hf]
        simp
      have htitle := (isTitle_markLine_iff (cleanLine line)).trans (opensTitle_cleanLine_iff line)
      rw [Option.all_some]
      by_cases ht : OpensTitle (Text.trimEnd line)
      · have hshort : Text.visible content ≠ "#SourceCodeExport".toList ++ Text.visible content := by
          intro h
          have hlength := congrArg List.length h
          rw [List.length_append] at hlength
          exact absurd hlength (by simp)
        rw [if_pos (htitle.2 ht)]
        exact iff_of_false hshort fun h => h.2 line rfl ht
      · rw [if_neg (fun h => ht (htitle.1 h))]
        refine iff_of_true rfl ⟨hne, fun other ho => ?_⟩
        rwa [← Option.some.inj ho]

end SourceBook.Markdown
