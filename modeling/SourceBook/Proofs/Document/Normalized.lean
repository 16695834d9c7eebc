import SourceBook.Proofs.Document.Assemble
import SourceBook.Proofs.Document.Skeleton

namespace SourceBook.Document

open Markdown

theorem cleanLine_of_visible {text : Text} (h : ∀ c ∈ text, Text.isBlank c = false) :
    cleanLine text = text := by
  rw [cleanLine_of_tab_not_mem fun hc => absurd (h _ hc) (by decide), Text.trimEnd_eq_self_iff]
  exact fun c hc => h c (List.mem_of_getLast? hc)

theorem cleanedLines_of_oneLine {text : Text} (h : Text.OneLine text) :
    cleanedLines text = [cleanLine text] := by
  rw [cleanedLines_of_return_not_mem h.return_not_mem, Text.lines_of_not_mem h.break_not_mem,
    List.map_singleton]

theorem cleanedLines_nil : cleanedLines [] = [[]] := rfl

def Section.trimmed (s : Section) : Section := { s with text := Text.trimEnd s.text }

def IsPlain (line : Text) : Prop := Text.OneLine line ∧ cleanLine line = line ∧ line ≠ []

instance (line : Text) : Decidable (IsPlain line) :=
  inferInstanceAs (Decidable (Text.OneLine line ∧ cleanLine line = line ∧ line ≠ []))

def Below.Plain : Below → Prop
  | .nothing => True
  | .prose content => '\r' ∉ content ∧ ∀ line ∈ Text.lines content, cleanLine line = line ∧ line ≠ []
  | .fenced opening _ closing => IsPlain opening ∧ IsPlain closing

structure Section.Plain (s : Section) : Prop where
  oneLine : Text.OneLine s.text
  noTab : '\t' ∉ s.text
  visible : Text.allBlank s.text = false
  below : s.below.Plain

theorem trimEnd_heading_of_visible {s : Section} (h : Text.allBlank s.text = false) :
    Text.trimEnd s.heading = s.trimmed.heading := by
  have hne : Text.trimEnd s.text ≠ [] := by
    rw [ne_eq, Text.trimEnd_eq_nil_iff, h]
    exact Bool.false_ne_true
  obtain ⟨tail, ht, hblank⟩ := Text.exists_eq_trimEnd_append s.text
  have hheading : s.heading = s.trimmed.heading ++ tail := by
    rw [Section.heading, Section.heading, Section.trimmed, List.append_assoc, List.cons_append, ← ht]
  rw [hheading, Text.trimEnd_append_of_blank hblank, Section.heading, Section.trimmed,
    ← List.singleton_append, ← List.append_assoc]
  exact Text.trimEnd_append_of_trimmed (Text.trimEnd_trimEnd _) hne _

section

variable {s : Section} (h : s.Plain)

include h

theorem Section.Plain.cleanLine_heading : cleanLine s.heading = s.trimmed.heading := by
  have htab : '\t' ∉ s.heading := by simpa [heading] using h.noTab
  rw [cleanLine_of_tab_not_mem htab, trimEnd_heading_of_visible h.visible]

theorem Section.Plain.oneLine_heading : Text.OneLine s.heading := by
  refine Text.OneLine.append (fun c hc => ?_) (List.forall_mem_cons.2 ⟨rfl, h.oneLine⟩)
  rw [List.eq_of_mem_replicate hc]
  rfl

theorem Section.Plain.flatMap_pieces :
    s.pieces.flatMap cleanedLines = s.trimmed.lines cleanedLines := by
  have hbelow : s.below.pieces.flatMap cleanedLines =
      (s.below.layout cleanedLines).map Prod.fst := by
    have hb := h.below
    cases hs : s.below with
    | nothing => rfl
    | prose content =>
        rw [hs] at hb
        obtain ⟨hreturn, hlines⟩ := hb
        have hcontent : cleanedLines content = Text.lines content := by
          rw [cleanedLines_of_return_not_mem hreturn]
          exact (List.map_congr_left fun line hl => (hlines line hl).1).trans (List.map_id _)
        simp [Below.pieces, Below.map_fst_prose, hcontent, cleanedLines_nil]
    | fenced opening code closing =>
        rw [hs] at hb
        obtain ⟨⟨hopening, hopening', -⟩, hclosing, hclosing', -⟩ := hb
        simp [Below.pieces, Below.map_fst_fenced, cleanedLines_of_oneLine hopening, hopening',
          cleanedLines_of_oneLine hclosing, hclosing', cleanedLines_nil]
  rw [pieces, lines, layout, List.flatMap_cons, List.flatMap_cons, hbelow,
    cleanedLines_of_oneLine h.oneLine_heading, h.cleanLine_heading, cleanedLines_nil]
  rfl

theorem Section.Plain.trimEnd_heading : Text.trimEnd s.trimmed.heading = s.trimmed.heading := by
  rw [← h.cleanLine_heading, trimEnd_cleanLine]

theorem Section.Plain.exists_last (read : Text → List Text) :
    ∃ init last, s.trimmed.lines read = init ++ [last, []] ∧ last ≠ [] ∧ Text.trimEnd last = last := by
  have hb := h.below
  cases hs : s.below with
  | nothing =>
      refine ⟨[], s.trimmed.heading, ?_, ?_, h.trimEnd_heading⟩
      · rw [lines, layout, trimmed, hs]
        rfl
      · simp [heading]
  | prose content =>
      rw [hs] at hb
      obtain ⟨init, last, hl⟩ := (List.eq_nil_or_concat (Text.lines content)).resolve_left
        (Text.lines_ne_nil content)
      obtain ⟨hclean, hne⟩ := hb.2 last (by simp [hl])
      refine ⟨s.trimmed.heading :: [] :: init, last, ?_, hne, hclean ▸ trimEnd_cleanLine last⟩
      rw [lines, layout, trimmed, hs]
      simp [Below.map_fst_prose, hl, heading]
  | fenced opening code closing =>
      rw [hs] at hb
      obtain ⟨-, -, hclean, hne⟩ := hb
      refine ⟨s.trimmed.heading :: [] :: opening :: read code, closing, ?_, hne,
        hclean ▸ trimEnd_cleanLine closing⟩
      rw [lines, layout, trimmed, hs]
      simp [Below.map_fst_fenced, heading]

end

/-- Soundness depends on how the code is read only in what closes the fence. -/
theorem Below.Sound.reread {read read' : Text → List Text} {below : Below} (h : below.Sound read)
    (hcode : ∀ opening code closing, below = .fenced opening code closing → ∀ n,
      opens? opening = some n → (∀ line ∈ read code, closes n line = false) →
      ∀ line ∈ read' code, closes n line = false) : below.Sound read' := by
  cases below with
  | nothing => trivial
  | prose content => exact h
  | fenced opening code closing =>
      obtain ⟨hopening, hclosing, n, hopen, hclose, hread⟩ := h
      exact ⟨hopening, hclosing, n, hopen, hclose, hcode opening code closing rfl n hopen hread⟩

theorem getLast?_flatMap_pieces {sections : List Section} (hne : sections ≠ []) :
    (sections.flatMap Section.pieces).getLast? = some [] := by
  obtain ⟨init, last, rfl⟩ := (List.eq_nil_or_concat sections).resolve_left hne
  have hlast : last.pieces.getLast? = some [] := by
    rw [Section.pieces]
    cases last.below <;> rfl
  rw [List.concat_eq_append, List.flatMap_append, List.flatMap_singleton, List.getLast?_append, hlast]
  rfl

theorem lines_cleanBlanks_sections {sections : List Section} (hne : sections ≠ [])
    (h : ∀ s ∈ sections, s.Plain) :
    Text.lines (cleanBlanks (Text.unlines (sections.flatMap Section.pieces))) =
      (sections.map Section.trimmed).flatMap (Section.lines cleanedLines) := by
  obtain ⟨init, hi⟩ := List.getLast?_eq_some_iff.1 (getLast?_flatMap_pieces hne)
  have hpieces : (sections.flatMap Section.pieces).flatMap cleanedLines =
      init.flatMap cleanedLines ++ [[]] := by
    rw [hi, List.flatMap_append, List.flatMap_singleton, cleanedLines_nil]
  rw [hi, lines_cleanBlanks_unlines, ← hpieces, List.flatMap_assoc, List.flatMap_map]
  exact List.flatMap_congr fun s hs => (h s hs).flatMap_pieces

/-- How the code of a file stands in a normalized document. -/
def tidyLines (code : Text) : List Text := onceBlank (cleanedLines code)

theorem Section.Sound.tidy {s : Section} (h : s.Sound cleanedLines) : s.Sound tidyLines := by
  refine ⟨h.level, h.text, h.below.reread fun opening code closing _ n _ hcode line hl => ?_⟩
  exact hcode line (mem_of_mem_onceBlank hl)

theorem mem_code_of_mem_code_tidyLines {below : Below} {line : Text} (h : line ∈ below.code tidyLines) :
    line ∈ below.code cleanedLines := by
  cases below with
  | nothing => exact h
  | prose content => exact h
  | fenced opening code closing => exact mem_of_mem_onceBlank h

theorem endWithBreak_sections {content : Text} {sections : List Section} {read : Text → List Text}
    (hne : sections ≠ []) (h : ∀ s ∈ sections, s.Plain)
    (hs : Text.lines content = (sections.map Section.trimmed).flatMap (Section.lines read)) :
    endWithBreak content = content := by
  obtain ⟨init, s, rfl⟩ := (List.eq_nil_or_concat sections).resolve_left hne
  obtain ⟨upper, last, hl, hlast, htrim⟩ := (h s (by simp)).exists_last read
  obtain ⟨body, c, hbody, hc⟩ := Text.exists_unlines_eq
    ((init.map Section.trimmed).flatMap (Section.lines read) ++ upper) hlast htrim
  have hcontent : content = body ++ [c, '\n'] := by
    rw [← Text.unlines_lines content, hs, ← hbody, List.concat_eq_append, List.map_append,
      List.flatMap_append, List.map_singleton, List.flatMap_singleton, hl, List.append_assoc]
  exact endWithBreak_eq_self hcontent hc

/-- A document of plain and sound sections under a title, with no wide line of code, comes out of the
passes with its headings trimmed and its code tidied, and is the same otherwise. -/
theorem lines_normalize_sections {first : Section} {rest : List Section}
    (hplain : ∀ s ∈ first :: rest, s.Plain)
    (hsound : ∀ s ∈ first :: rest, s.trimmed.Sound cleanedLines) (hlevel : first.level = 1)
    (hnarrow : ∀ line ∈ (first :: rest).flatMap fun s => s.below.code cleanedLines,
      Text.width line ≤ wrapThreshold) :
    Text.lines (normalize (Text.unlines ((first :: rest).flatMap Section.pieces))) =
      ((first :: rest).map Section.trimmed).flatMap (Section.lines tidyLines) := by
  have hlines := lines_cleanBlanks_sections (List.cons_ne_nil first rest) hplain
  have hsound' : ∀ s ∈ (first :: rest).map Section.trimmed, s.Sound cleanedLines := by
    simpa using hsound
  have htidy := lines_collapseBlankLines_sections hsound' hlines
  have htidySound : ∀ s ∈ (first :: rest).map Section.trimmed, s.Sound tidyLines :=
    fun s hs => (hsound' s hs).tidy
  have htidyNarrow : ∀ line ∈ ((first :: rest).map Section.trimmed).flatMap fun s =>
      s.below.code tidyLines, Text.width line ≤ wrapThreshold := by
    intro line hl
    rw [List.flatMap_map, List.mem_flatMap] at hl
    obtain ⟨s, hs, hl⟩ := hl
    exact hnarrow line (List.mem_flatMap.2 ⟨s, hs, mem_code_of_mem_code_tidyLines hl⟩)
  rw [normalize_eq, beforeWrapping, spaceHeadingMarks_sections hsound' hlines,
    spaceHeadings_sections hsound' hlines, ensureTitle_sections htidy List.map_cons hlevel,
    wrapCode_sections htidySound htidy htidyNarrow,
    endWithBreak_sections (List.cons_ne_nil first rest) hplain htidy, htidy]
  rfl

theorem isPlain_of_visible {line : Text} (h : ∀ c ∈ line, Text.isBlank c = false) (hne : line ≠ []) :
    IsPlain line :=
  ⟨Text.oneLine_of_visible h, cleanLine_of_visible h, hne⟩

theorem contents_plain {paths : List Text} (hne : paths ≠ [])
    (h : ∀ path ∈ paths, Text.OneLine path ∧ '\t' ∉ path) : (Below.prose (contents paths)).Plain := by
  have hone : ∀ path ∈ paths, Text.OneLine path := fun path hp => (h path hp).1
  have hmem (c : Char) (hblank : Text.isBlank c = true) (hspace : c ∉ "- [](#)".toList)
      (hpaths : ∀ path ∈ paths, c ∉ path) : ∀ line ∈ Text.lines (contents paths), c ∉ line := by
    intro line hl hc
    obtain ⟨path, hp, anchor, hvisible, rfl⟩ := lines_contents hne hone line hl
    rcases mem_contentsLine hc with hc | hc | hc
    · exact hpaths path hp hc
    · rw [hvisible c hc] at hblank
      exact absurd hblank (by decide)
    · exact hspace hc
  constructor
  · intro hc
    obtain ⟨line, hl, hc⟩ := Text.exists_mem_lines hc (by decide)
    exact hmem '\r' rfl (by decide) (fun path hp => (hone path hp).return_not_mem) line hl hc
  · intro line hl
    have htab := hmem '\t' rfl (by decide) (fun path hp => (h path hp).2) line hl
    obtain ⟨path, hp, anchor, -, rfl⟩ := lines_contents hne hone line hl
    refine ⟨?_, List.append_ne_nil_of_right_ne_nil _ (List.cons_ne_nil _ _)⟩
    rw [cleanLine_of_tab_not_mem htab]
    exact Text.trimEnd_append_of_trimmed (by decide) (by decide) _

section

variable [Text.Collation] {root : Text} {parts : Parts} {entries : List Entry}
  (hroot : Text.OneLine root ∧ '\t' ∉ root)
  (hpaths : ∀ entry ∈ entries, Text.OneLine entry.path ∧ '\t' ∉ entry.path)

include hroot hpaths

theorem plain_outline (hvisible : ∀ entry ∈ entries, Text.allBlank entry.path = false) :
    ∀ s ∈ outline root parts entries, s.Plain := by
  have htitle : Text.OneLine (defaultTitle ++ ": ".toList) ∧
      '\t' ∉ defaultTitle ++ ": ".toList ∧ 'S' ∈ defaultTitle ++ ": ".toList := by decide
  have htree : Text.OneLine "Directory Structure".toList ∧ '\t' ∉ "Directory Structure".toList ∧
      Text.allBlank "Directory Structure".toList = false := by decide
  have hcontents : Text.OneLine "Table of Contents".toList ∧ '\t' ∉ "Table of Contents".toList ∧
      Text.allBlank "Table of Contents".toList = false := by decide
  have hfiles : Text.OneLine "Files".toList ∧ '\t' ∉ "Files".toList ∧
      Text.allBlank "Files".toList = false := by decide
  have hfence : IsPlain "```text".toList ∧ IsPlain "```".toList := by decide
  have hnone : '\r' ∉ "_No files exported._".toList ∧
      ∀ line ∈ Text.lines "_No files exported._".toList, cleanLine line = line ∧ line ≠ [] := by decide
  apply forall_mem_outline
  · obtain ⟨hline, htab, hmem⟩ := htitle
    refine ⟨hline.append hroot.1, List.not_mem_append htab hroot.2, ?_, trivial⟩
    exact Text.allBlank_eq_false (List.mem_append_left root hmem) rfl
  · intro _
    exact ⟨htree.1, htree.2.1, htree.2.2, hfence⟩
  · intro hne
    refine ⟨hcontents.1, hcontents.2.1, hcontents.2.2, contents_plain (by simpa using hne) ?_⟩
    simpa using hpaths
  · refine ⟨hfiles.1, hfiles.2.1, hfiles.2.2, ?_⟩
    rw [filesOutline]
    split
    · exact hnone
    · trivial
  · intro entry he
    exact ⟨(hpaths entry he).1, (hpaths entry he).2, hvisible entry he,
      isPlain_of_visible (fun c hc => visible_of_mem_opening hc) (by simp [fence_ne_nil]),
      isPlain_of_visible (fun c hc => visible_of_mem_fence hc) (fence_ne_nil _)⟩

theorem closes_of_mem_cleanedLines_render {line : Text}
    (h : line ∈ cleanedLines (Tree.render root (Tree.ofPaths (entries.map Entry.path)))) (n : Nat) :
    closes n line = false := by
  have hpaths' : ∀ path ∈ entries.map Entry.path, Text.OneLine path := by
    simpa using fun entry he => (hpaths entry he).1
  have hsolid {source : Text}
      (hl : source ∈ Text.lines (Tree.render root (Tree.ofPaths (entries.map Entry.path)))) :=
    Tree.solid_of_mem_lines_render hroot.1 hpaths' hl
  have hreturn : '\r' ∉ Tree.render root (Tree.ofPaths (entries.map Entry.path)) := by
    intro hc
    obtain ⟨source, hl, hc⟩ := Text.exists_mem_lines hc (by decide)
    exact (hsolid hl).1.return_not_mem hc
  rw [cleanedLines_of_return_not_mem hreturn, List.mem_map] at h
  obtain ⟨source, hl, rfl⟩ := h
  obtain ⟨-, hc | hc⟩ := hsolid hl
  · exact closes_of_mem (mem_cleanLine_of_visible hc (by decide)) (by decide) (by decide) n
  · exact closes_of_mem (mem_cleanLine_of_visible hc (by decide)) (by decide) (by decide) n

theorem sound_trimmed_outline : ∀ s ∈ outline root parts entries, s.trimmed.Sound cleanedLines := by
  have hone : ∀ entry ∈ entries, Text.OneLine entry.path := fun entry he => (hpaths entry he).1
  have hcode : ∀ s ∈ outline root parts entries, ∀ opening code closing,
      s.below = .fenced opening code closing → ∀ n, opens? opening = some n →
        ∀ line ∈ cleanedLines code, closes n line = false := by
    apply forall_mem_outline
    · intro _ _ _ hb
      cases hb
    · intro _ opening code closing hb n _ line hl
      obtain ⟨-, rfl, -⟩ := Below.fenced.inj hb
      exact closes_of_mem_cleanedLines_render hroot hpaths hl n
    · intro _ _ _ _ hb
      cases hb
    · rw [filesOutline]
      intro _ _ _ hb
      split at hb <;> cases hb
    · intro entry _ opening body closing hb n hopen line hl
      obtain ⟨rfl, rfl, -⟩ := Below.fenced.inj hb
      rw [opens?_fence, Option.some_inj] at hopen
      subst hopen
      rw [← fenceLength_append_break]
      exact closes_fenceLength_cleanBlanks (List.dropLast_subset _ hl)
  intro s hs
  obtain ⟨hlevel, htext, hbelow⟩ := sound_outline hroot.1 hone s hs
  refine ⟨hlevel, fun c hc => htext c ((Text.trimEnd_isPrefix _).subset hc), ?_⟩
  exact hbelow.reread fun opening code closing hb n hopen _ => hcode s hs opening code closing hb n hopen

end

def Entry.emptied (entry : Entry) : Entry := { entry with content := [] }

theorem texts_fileOutline (parts : Parts) (entry : Entry) :
    (fileOutline parts entry).trimmed.texts = ["### ".toList ++ Text.trimEnd entry.path, [], []] := rfl

/-- Outside the fences an outline does not depend on what the files hold. -/
theorem flatMap_texts_outline_emptied [Text.Collation] (root : Text) (parts : Parts) (entries : List Entry) :
    (outline root parts (entries.map Entry.emptied)).flatMap (fun s => s.trimmed.texts) =
      (outline root parts entries).flatMap fun s => s.trimmed.texts := by
  have hpaths : (entries.map Entry.emptied).map Entry.path = entries.map Entry.path := by
    simp [Entry.emptied, Function.comp_def]
  have hfiles : filesOutline (entries.map Entry.emptied) = filesOutline entries := by
    rw [filesOutline, filesOutline, List.isEmpty_map]
  have hfile : ((entries.map Entry.emptied).map (fileOutline parts)).flatMap (fun s => s.trimmed.texts) =
      (entries.map (fileOutline parts)).flatMap fun s => s.trimmed.texts := by
    rw [List.map_map, List.flatMap_map, List.flatMap_map]
    simp only [Function.comp_apply, texts_fileOutline]
    rfl
  rw [outline, outline, hpaths, hfiles, List.isEmpty_map]
  simp only [List.flatMap_append, List.flatMap_cons, hfile]

/-- Whatever the files hold, a normalized document has the headings of the outline and the code of the
files in their fences, tidied. Outside the fences it is what it is for empty files. -/
theorem normalize_assemble_contains_files [Text.Collation] (root : Text) (parts : Parts)
    (entries : List Entry) (hroot : Text.OneLine root ∧ '\t' ∉ root)
    (hpaths : ∀ entry ∈ entries, Text.OneLine entry.path ∧ '\t' ∉ entry.path)
    (hvisible : ∀ entry ∈ entries, Text.allBlank entry.path = false)
    (hnarrow : ∀ line ∈ codeOf cleanedLines root parts entries, Text.width line ≤ wrapThreshold) :
    kinded (Text.lines (normalize (assemble root parts entries))) =
        ((outline root parts entries).map Section.trimmed).flatMap (Section.layout tidyLines) ∧
      codeLines (kinded (Text.lines (normalize (assemble root parts entries)))) =
        codeOf tidyLines root parts entries ∧
      (headings (Text.lines (normalize (assemble root parts entries)))).map
          (fun heading => (heading.level, heading.text)) =
        headingTexts root parts (entries.map Entry.path) ∧
      textLines (kinded (Text.lines (normalize (assemble root parts entries)))) =
        (outline root parts (entries.map Entry.emptied)).flatMap fun s => s.trimmed.texts := by
  have hplain : ∀ s ∈ outline root parts entries, s.Plain := plain_outline hroot hpaths hvisible
  have hsound : ∀ s ∈ outline root parts entries, s.trimmed.Sound cleanedLines :=
    sound_trimmed_outline hroot hpaths
  have htidy : ∀ s ∈ (outline root parts entries).map Section.trimmed, s.Sound tidyLines := by
    simpa using fun s hs => (hsound s hs).tidy
  rw [← flatMap_code_outline] at hnarrow
  have hlines : Text.lines (normalize (assemble root parts entries)) =
      ((outline root parts entries).map Section.trimmed).flatMap (Section.lines tidyLines) := by
    rw [assemble_eq]
    exact lines_normalize_sections hplain hsound rfl hnarrow
  have hkinded := kinded_sections htidy
  rw [hlines]
  refine ⟨hkinded, ?_, ?_, ?_⟩
  · rw [hkinded, codeLines_flatMap_layout, List.flatMap_map]
    exact flatMap_code_outline tidyLines root parts entries
  · rw [headings_sections htidy, List.map_map, ← map_outline]
    exact List.map_congr_left fun s _ => congrArg (Prod.mk s.level) (Text.trim_trimEnd s.text)
  · rw [hkinded, textLines_flatMap_layout, List.flatMap_map, flatMap_texts_outline_emptied]

theorem normalize_assemble_contains_files_returns :
    (Text.OneLine "a".toList ∧ '\t' ∉ "a".toList) ∧
      (Text.OneLine "b.md ".toList ∧ '\t' ∉ "b.md ".toList ∧ Text.allBlank "b.md ".toList = false) ∧
      codeLines (kinded (Text.lines (normalize (assemble "a".toList ⟨false, true, false⟩
        [⟨"b.md ".toList, ".md".toList, "# c\r\r\r```\t\r\n".toList⟩])))) =
        ["# c".toList, [], "```".toList] := by
  have hroot : Text.OneLine "a".toList ∧ '\t' ∉ "a".toList := by decide
  have hpath : Text.OneLine "b.md ".toList ∧ '\t' ∉ "b.md ".toList ∧
      Text.allBlank "b.md ".toList = false := by decide
  obtain ⟨-, hcode, -⟩ := normalize_assemble_contains_files "a".toList ⟨false, true, false⟩
    [⟨"b.md ".toList, ".md".toList, "# c\r\r\r```\t\r\n".toList⟩] hroot
    (List.forall_mem_singleton.2 ⟨hpath.1, hpath.2.1⟩) (List.forall_mem_singleton.2 hpath.2.2) (by decide)
  rw [hcode]
  exact ⟨hroot, hpath, by decide⟩

end SourceBook.Document
