import SourceBook.Markdown.Heading
import SourceBook.Proofs.Markdown.LinePasses

namespace SourceBook.Document

open Markdown

inductive Below where
  | nothing
  | prose (content : Text)
  | fenced (opening code closing : Text)

structure Section where
  level : Nat
  text : Text
  below : Below

def Below.pieces : Below → List Text
  | nothing => []
  | prose content => [content, []]
  | fenced opening code closing => [opening, code, closing, []]

def Below.layout (read : Text → List Text) : Below → List (Text × LineKind)
  | nothing => []
  | prose content => (Text.lines content).map (·, .text) ++ [([], .text)]
  | fenced opening code closing =>
    (opening, .fence) :: (read code).map (·, .code) ++ [(closing, .fence), ([], .text)]

theorem Below.map_fst_prose (read : Text → List Text) (content : Text) :
    ((prose content).layout read).map Prod.fst = Text.lines content ++ [[]] := by
  simp [layout, Function.comp_def]

theorem Below.map_fst_fenced (read : Text → List Text) (opening code closing : Text) :
    ((fenced opening code closing).layout read).map Prod.fst =
      opening :: (read code ++ [closing, []]) := by
  simp [layout, Function.comp_def]

namespace Section

def heading (s : Section) : Text := List.replicate s.level '#' ++ ' ' :: s.text

def pieces (s : Section) : List Text := s.heading :: [] :: s.below.pieces

def layout (read : Text → List Text) (s : Section) : List (Text × LineKind) :=
  (s.heading, .text) :: ([], .text) :: s.below.layout read

def lines (read : Text → List Text) (s : Section) : List Text := (s.layout read).map Prod.fst

end Section

/-- Prose opens no fence and holds no heading. A fence is closed by its last line and by no line of its
code. -/
def Below.Sound (read : Text → List Text) : Below → Prop
  | nothing => True
  | prose content => ∀ line ∈ Text.lines content,
      line ≠ [] ∧ line.head? ≠ some '#' ∧ line.head? ≠ some tick
  | fenced opening code closing => '\n' ∉ opening ∧ '\n' ∉ closing ∧ ∃ n, opens? opening = some n ∧
      closes n closing = true ∧ ∀ line ∈ read code, closes n line = false

structure Section.Sound (read : Text → List Text) (s : Section) : Prop where
  level : s.level ≠ 0
  text : Text.OneLine s.text
  below : s.below.Sound read

section

variable {read : Text → List Text} {s : Section}

theorem Below.kindedFrom_layout {below : Below} (h : below.Sound read) :
    kindedFrom none ((below.layout read).map Prod.fst) = below.layout read ∧
      fenceAfter none ((below.layout read).map Prod.fst) = none := by
  cases below with
  | nothing => exact ⟨rfl, rfl⟩
  | prose content =>
      have hopen : ∀ line ∈ Text.lines content ++ [[]], opens? line = none := by
        intro line hl
        rw [List.mem_append, List.mem_singleton] at hl
        rcases hl with hl | rfl
        · exact opens?_of_head? (h line hl).2.2
        · rfl
      rw [map_fst_prose, (kindedFrom_text hopen).1, (kindedFrom_text hopen).2]
      simp [layout]
  | fenced opening code closing =>
      obtain ⟨-, -, n, hopen, hclose, hcode⟩ := h
      have hfirst : kindAt none opening = (.fence, some n) := by simp [kindAt, hopen]
      have hlast : kindAt (some n) closing = (.fence, none) := by simp [kindAt, hclose]
      obtain ⟨hk, hf⟩ := kindedFrom_code hcode
      rw [map_fst_fenced]
      constructor
      · rw [kindedFrom_cons, hfirst, kindedFrom_append, hk, hf]
        simp [layout, hlast]
      · rw [fenceAfter_cons, hfirst, fenceAfter_append, hf]
        simp [hlast]

theorem Below.head?_of_mem_layout {below : Below} (h : below.Sound read) {line : Text}
    (hl : (line, .text) ∈ below.layout read) : line.head? ≠ some '#' := by
  cases below with
  | nothing => exact absurd hl List.not_mem_nil
  | prose content =>
      simp only [layout, List.mem_append, List.mem_map, List.mem_singleton, Prod.mk.injEq,
        and_true] at hl
      rcases hl with ⟨source, hs, rfl⟩ | rfl
      · exact (h source hs).2.1
      · simp
  | fenced opening code closing =>
      have hnil : line = [] := by simpa [layout] using hl
      simp [hnil]

theorem Section.head?_heading (h : s.level ≠ 0) : s.heading.head? = some '#' := by
  obtain ⟨n, hn⟩ := Nat.exists_eq_succ_of_ne_zero h
  simp [heading, hn, List.replicate_succ]

theorem Section.kindedFrom_lines (h : s.Sound read) :
    kindedFrom none (s.lines read) = s.layout read ∧ fenceAfter none (s.lines read) = none := by
  have hheading : kindAt none s.heading = (.text, none) :=
    kindAt_of_head? (by rw [head?_heading h.level]; decide) none
  obtain ⟨hk, hf⟩ := Below.kindedFrom_layout h.below
  constructor
  · rw [lines, layout, List.map_cons, List.map_cons, kindedFrom_cons, hheading, kindedFrom_cons,
      kindAt_nil, hk]
    rfl
  · rw [lines, layout, List.map_cons, List.map_cons, fenceAfter_cons, hheading, fenceAfter_cons,
      kindAt_nil]
    exact hf

theorem kinded_sections {sections : List Section} (h : ∀ s ∈ sections, s.Sound read) :
    kinded (sections.flatMap (Section.lines read)) = sections.flatMap (Section.layout read) := by
  rw [kinded_eq_kindedFrom]
  induction sections with
  | nil => rfl
  | cons s sections ih =>
      obtain ⟨hk, hf⟩ := Section.kindedFrom_lines (h s (by simp))
      rw [List.flatMap_cons, List.flatMap_cons, kindedFrom_append, hk, hf,
        ih fun other ho => h other (by simp [ho])]

theorem Section.Sound.flatMap_pieces (h : s.Sound Text.lines) :
    s.pieces.flatMap Text.lines = s.lines Text.lines := by
  have hheading : '\n' ∉ s.heading := by
    have htext := h.text.break_not_mem
    simp [heading, htext]
  rw [Section.pieces, Section.lines, layout, List.flatMap_cons, List.flatMap_cons,
    Text.lines_of_not_mem hheading, Text.lines_nil]
  cases hb : s.below with
  | nothing => rfl
  | prose content => simp [Below.pieces, Below.map_fst_prose, Text.lines_nil]
  | fenced opening code closing =>
      have hbelow := h.below
      rw [hb] at hbelow
      obtain ⟨hopening, hclosing, -⟩ := hbelow
      simp [Below.pieces, Below.map_fst_fenced, Text.lines_of_not_mem hopening,
        Text.lines_of_not_mem hclosing, Text.lines_nil]

def codeLines (l : List (Text × LineKind)) : List Text := (l.filter (·.2 = .code)).map Prod.fst

def textLines (l : List (Text × LineKind)) : List Text := (l.filter (·.2 = .text)).map Prod.fst

def Below.code (read : Text → List Text) : Below → List Text
  | fenced _ code _ => read code
  | _ => []

def Below.texts : Below → List Text
  | nothing => []
  | prose content => Text.lines content ++ [[]]
  | fenced _ _ _ => [[]]

def Section.texts (s : Section) : List Text := s.heading :: [] :: s.below.texts

theorem textLines_flatMap_layout (read : Text → List Text) (sections : List Section) :
    textLines (sections.flatMap (Section.layout read)) = sections.flatMap Section.texts := by
  have hlayout (s : Section) : textLines (s.layout read) = s.texts := by
    cases hb : s.below <;>
      simp [textLines, Section.layout, Section.texts, hb, Below.layout, Below.texts, List.filter_map,
        Function.comp_def]
  rw [textLines, List.filter_flatMap, List.map_flatMap]
  exact List.flatMap_congr fun s _ => hlayout s

theorem codeLines_flatMap_layout (read : Text → List Text) (sections : List Section) :
    codeLines (sections.flatMap (Section.layout read)) = sections.flatMap fun s => s.below.code read := by
  have hlayout (s : Section) : codeLines (s.layout read) = s.below.code read := by
    cases hb : s.below <;>
      simp [codeLines, Section.layout, hb, Below.layout, Below.code, List.filter_map, Function.comp_def]
  rw [codeLines, List.filter_flatMap, List.map_flatMap]
  exact List.flatMap_congr fun s _ => hlayout s

def headingOf? (p : Text × LineKind) : Option (Nat × Text) :=
  if p.2 = .text then headingParts? p.1 else none

theorem map_headings (lines : List Text) :
    (headings lines).map (fun heading => (heading.level, heading.text)) =
      (kinded lines).filterMap headingOf? := by
  have hparse (i : Nat) (l : List (Text × LineKind)) :
      ((l.zipIdx i).filterMap fun p =>
        if p.1.2 = .text then parseHeading? p.1.1 p.2 else none).map
          (fun heading => (heading.level, heading.text)) = l.filterMap headingOf? := by
    induction l generalizing i with
    | nil => rfl
    | cons p l ih =>
        obtain ⟨line, kind⟩ := p
        rw [List.zipIdx_cons, List.filterMap_cons, List.filterMap_cons, headingOf?]
        by_cases hk : kind = .text
        · cases hp : headingParts? line with
          | none => simpa [hk, parseHeading?, hp] using ih (i + 1)
          | some parts => simpa [hk, parseHeading?, hp] using ih (i + 1)
        · simpa [hk] using ih (i + 1)
  exact hparse 0 _

theorem headingParts?_of_head? {line : Text} (h : line.head? ≠ some '#') :
    headingParts? line = none := by
  simp [headingParts?, isHeading_of_head? h]

theorem Section.headingParts?_heading (hlevel : s.level ≠ 0) (htext : Text.OneLine s.text) :
    headingParts? s.heading = some (s.level, Text.trim s.text) := by
  have hmark : (' ' :: s.text).head? ≠ some '#' := by simp
  have hheading : isHeading s.heading = true := by
    rw [heading, isHeading_replicate_append hmark]
    simp [hlevel, Text.isBlank_space]
  have hstart : Text.trimStart (' ' :: s.text) = Text.trimStart s.text := rfl
  have hline : (Text.trimStart s.text).any Text.isLineEnd = false := by
    rw [List.any_eq_false]
    intro c hc
    rw [htext c ((List.dropWhile_suffix _).subset hc)]
    exact Bool.false_ne_true
  rw [headingParts?, hheading, heading, marks_replicate_append hmark]
  simp [hstart, hline, Text.trim]

theorem Below.filterMap_headingOf?_layout {below : Below} (h : below.Sound read) :
    (below.layout read).filterMap headingOf? = [] := by
  rw [List.filterMap_eq_nil_iff]
  rintro ⟨line, kind⟩ hp
  rw [headingOf?]
  split
  · next hk =>
      obtain rfl : kind = .text := hk
      exact headingParts?_of_head? (head?_of_mem_layout h hp)
  · rfl

theorem Section.filterMap_headingOf?_layout (h : s.Sound read) :
    (s.layout read).filterMap headingOf? = [(s.level, Text.trim s.text)] := by
  have hheading : headingOf? (s.heading, .text) = some (s.level, Text.trim s.text) := by
    rw [headingOf?, if_pos rfl, headingParts?_heading h.level h.text]
  have hnil : headingOf? ([], .text) = none := rfl
  rw [layout, List.filterMap_cons, hheading, List.filterMap_cons, hnil,
    Below.filterMap_headingOf?_layout h.below]

theorem headings_sections {sections : List Section} (h : ∀ s ∈ sections, s.Sound read) :
    (headings (sections.flatMap (Section.lines read))).map
        (fun heading => (heading.level, heading.text)) =
      sections.map fun s => (s.level, Text.trim s.text) := by
  rw [map_headings, kinded_sections h]
  induction sections with
  | nil => rfl
  | cons s sections ih =>
      rw [List.flatMap_cons, List.filterMap_append, Section.filterMap_headingOf?_layout (h s (by simp)),
        ih fun other ho => h other (by simp [ho])]
      rfl

end

end SourceBook.Document
