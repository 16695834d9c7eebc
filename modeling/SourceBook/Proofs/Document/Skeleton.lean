import SourceBook.Proofs.Document.Outline
import SourceBook.Proofs.Markdown.FixedPoints

namespace SourceBook.Document

open Markdown

section

variable {read : Text → List Text}

theorem head?_of_isCramped {line : Text} (h : IsCramped line) : line.head? = some '#' := by
  obtain ⟨n, c, rest, rfl, -⟩ := h
  simp [List.replicate_succ]

theorem Below.not_isHeadingLine {below : Below} (h : below.Sound read) :
    ∀ p ∈ below.layout read, isHeadingLine p = false := by
  rintro ⟨line, kind⟩ hp
  by_cases hk : kind = .text
  · subst hk
    exact isHeading_of_head? (head?_of_mem_layout h hp)
  · simp [isHeadingLine, hk]

variable {s : Section} {sections : List Section}

theorem Section.not_isCramped (h : s.Sound read) {line : Text} (hl : (line, .text) ∈ s.layout read) :
    ¬ IsCramped line := by
  rw [layout, List.mem_cons, List.mem_cons] at hl
  rcases hl with hl | hl | hl
  · rw [(Prod.mk.inj hl).1, heading, isCramped_replicate_append (by simp)]
    simp [Text.isBlank_space]
  · rw [(Prod.mk.inj hl).1]
    exact not_isCramped_nil
  · intro hc
    exact Below.head?_of_mem_layout h.below hl (head?_of_isCramped hc)

theorem Section.isChain_layout (h : s.Sound read) : (s.layout read).IsChain Apart := by
  have hbelow := isChain_of_not_headings (Below.not_isHeadingLine h.below)
  exact (hbelow.cons fun p _ => apart_nil_left _ p).cons_cons (apart_nil_right _ _)

theorem Section.getLast?_layout (read : Text → List Text) (s : Section) :
    (s.layout read).getLast? = some ([], .text) := by
  rw [layout]
  cases s.below <;> simp [Below.layout, List.getLast?_cons, List.getLast?_append]

theorem isChain_sections (h : ∀ s ∈ sections, s.Sound read) :
    (sections.flatMap (Section.layout read)).IsChain Apart := by
  induction sections with
  | nil => exact .nil
  | cons s sections ih =>
      rw [List.flatMap_cons]
      refine (Section.isChain_layout (h s (by simp))).append
        (ih fun other ho => h other (by simp [ho])) fun p hp q _ => ?_
      rw [Section.getLast?_layout, Option.mem_some_iff] at hp
      exact hp ▸ apart_nil_left _ q

theorem head?_sections (read : Text → List Text) (sections : List Section) :
    (sections.flatMap (Section.lines read)).head? ≠ some [] := by
  cases sections with
  | nil => simp
  | cons s sections => simp [Section.lines, Section.layout, Section.heading]

theorem squeeze_append_nil_cons {solid rest : List Text} (h : ∀ line ∈ solid, line ≠ [])
    (hrest : rest.head? ≠ some []) : squeeze (solid ++ [] :: rest) = solid ++ [] :: squeeze rest := by
  induction solid with
  | nil => exact squeeze_cons_of_head? hrest []
  | cons line solid ih =>
      rw [List.forall_mem_cons] at h
      rw [List.cons_append, squeeze_cons, ih h.2]
      cases solid with
      | nil =>
          rw [← head?_squeeze] at hrest
          exact squeezeCons_nil_cons hrest line
      | cons next solid => exact squeezeCons_of_head? (by simpa using h.2 next (by simp)) line

theorem ne_nil_of_opens? {n : Nat} {line : Text} (h : opens? line = some n) : line ≠ [] := by
  rintro rfl
  exact Option.some_ne_none n h.symm

theorem ne_nil_of_closes {n : Nat} {line : Text} (h : closes n line = true) : line ≠ [] := by
  rintro rfl
  exact absurd h Bool.false_ne_true

theorem Below.squeeze_layout {below : Below} (h : below.Sound read) {rest : List Text}
    (hrest : rest.head? ≠ some []) :
    squeeze ((below.layout read).map Prod.fst ++ rest) =
        (below.layout fun code => onceBlank (read code)).map Prod.fst ++ squeeze rest ∧
      ((below.layout read).map Prod.fst ++ rest).head? ≠ some [] := by
  cases below with
  | nothing => exact ⟨rfl, hrest⟩
  | prose content =>
      obtain ⟨first, lines, hl⟩ := List.exists_cons_of_ne_nil (Text.lines_ne_nil content)
      have hsolid : ∀ line ∈ Text.lines content, line ≠ [] := fun line hm => (h line hm).1
      rw [map_fst_prose, map_fst_prose, List.append_assoc, List.append_assoc]
      constructor
      · exact squeeze_append_nil_cons hsolid hrest
      · rw [hl]
        simpa using hsolid first (by simp [hl])
  | fenced opening code closing =>
      obtain ⟨-, -, n, hopen, hclose, -⟩ := h
      have hclosing := ne_nil_of_closes hclose
      have hlast : squeeze (closing :: [] :: rest) = closing :: [] :: squeeze rest :=
        squeeze_append_nil_cons (List.forall_mem_singleton.2 hclosing) hrest
      rw [map_fst_fenced, map_fst_fenced, List.cons_append, List.append_assoc]
      constructor
      · rw [List.cons_append, List.cons_append, List.nil_append, squeeze_cons_append_cons hclosing,
          hlast, List.cons_append, List.append_assoc]
        rfl
      · simpa using ne_nil_of_opens? hopen

/-- The fourth pass changes no line outside the fences, and inside them it reduces every run of empty
lines to one. -/
theorem squeeze_sections (h : ∀ s ∈ sections, s.Sound read) :
    squeeze (sections.flatMap (Section.lines read)) =
      sections.flatMap (Section.lines fun code => onceBlank (read code)) := by
  induction sections with
  | nil => rfl
  | cons s sections ih =>
      rw [List.forall_mem_cons] at h
      obtain ⟨hbelow, hhead⟩ := Below.squeeze_layout h.1.below (head?_sections read sections)
      have hheading : ∀ line ∈ [s.heading], line ≠ [] := by simp [Section.heading]
      have hlines (read : Text → List Text) (rest : List Text) : s.lines read ++ rest =
          [s.heading] ++ [] :: ((s.below.layout read).map Prod.fst ++ rest) := rfl
      rw [List.flatMap_cons, List.flatMap_cons, hlines, hlines, squeeze_append_nil_cons hheading hhead,
        hbelow, ih h.2]

variable {content : Text} (h : ∀ s ∈ sections, s.Sound read)
  (hs : Text.lines content = sections.flatMap (Section.lines read))

include h hs

theorem spaceHeadingMarks_sections : spaceHeadingMarks content = content := by
  apply spaceHeadingMarks_eq_self
  intro line hl
  rw [hs, kinded_sections h, List.mem_flatMap] at hl
  obtain ⟨s, hm, hl⟩ := hl
  exact Section.not_isCramped (h s hm) hl

theorem spaceHeadings_sections : spaceHeadings content = content := by
  apply spaceHeadings_eq_self
  rw [hs, kinded_sections h]
  exact isChain_sections h

theorem lines_collapseBlankLines_sections :
    Text.lines (collapseBlankLines content) =
      sections.flatMap (Section.lines fun code => onceBlank (read code)) := by
  rw [lines_collapseBlankLines, hs, squeeze_sections h]

theorem wrapCode_sections
    (hnarrow : ∀ line ∈ sections.flatMap fun s => s.below.code read, Text.width line ≤ wrapThreshold) :
    wrapCode content = content := by
  apply wrapCode_eq_self
  intro line hl hw
  have hcode : line ∈ codeLines (kinded (Text.lines content)) :=
    List.mem_map.2 ⟨(line, .code), List.mem_filter.2 ⟨hl, rfl⟩, rfl⟩
  rw [hs, kinded_sections h, codeLines_flatMap_layout] at hcode
  exact absurd (hnarrow line hcode) (Nat.not_le.2 hw)

omit h in
theorem ensureTitle_sections {first : Section} {rest : List Section} (hsections : sections = first :: rest)
    (hlevel : first.level = 1) (title : Text) : ensureTitle title content = content := by
  apply ensureTitle_of_titled
  rw [hs, hsections, List.flatMap_cons]
  refine ⟨first.heading, _, rfl, ?_⟩
  rw [Section.heading, hlevel]
  rfl

end

end SourceBook.Document
