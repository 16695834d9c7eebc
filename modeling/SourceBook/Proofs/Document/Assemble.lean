import SourceBook.Document.Assemble
import SourceBook.Proofs.Document.Contents
import SourceBook.Proofs.Document.Listing
import SourceBook.Proofs.Document.Outline
import SourceBook.Proofs.Document.Tree

namespace SourceBook.Document

open Markdown

def titleOutline (root : Text) : Section := ⟨1, defaultTitle ++ ": ".toList ++ root, .nothing⟩

def contentsOutline (paths : List Text) : Section :=
  ⟨2, "Table of Contents".toList, .prose (contents paths)⟩

def filesOutline (entries : List Entry) : Section :=
  ⟨2, "Files".toList, if entries.isEmpty then .prose "_No files exported._".toList else .nothing⟩

def fileOutline (parts : Parts) (entry : Entry) : Section :=
  ⟨3, entry.path, .fenced (fence (code parts entry) ++ language entry.extension) (code parts entry)
    (fence (code parts entry))⟩

def headingTexts (root : Text) (parts : Parts) (paths : List Text) : List (Nat × Text) :=
  (1, Text.trim (defaultTitle ++ ": ".toList ++ root)) ::
    (if parts.tree then [(2, "Directory Structure".toList)] else []) ++
    (if parts.contents && !paths.isEmpty then [(2, "Table of Contents".toList)] else []) ++
    (2, "Files".toList) :: paths.map fun path => (3, Text.trim path)

theorem recovered_code (parts : Parts) (entry : Entry) :
    recovered parts.lineNumbers (Text.lines (code parts entry)) = dropEndBreaks entry.content := by
  rw [recovered, code]
  split
  · exact unnumbered_lines_numberLines _
  · exact Text.unlines_lines _

section

variable [Text.Collation]

def treeOutline (root : Text) (paths : List Text) : Section :=
  ⟨2, "Directory Structure".toList,
    .fenced "```text".toList (Tree.render root (Tree.ofPaths paths)) "```".toList⟩

def outline (root : Text) (parts : Parts) (entries : List Entry) : List Section :=
  titleOutline root ::
    (if parts.tree then [treeOutline root (entries.map Entry.path)] else []) ++
    (if parts.contents && !entries.isEmpty then [contentsOutline (entries.map Entry.path)] else []) ++
    filesOutline entries :: entries.map (fileOutline parts)

theorem assemble_eq (root : Text) (parts : Parts) (entries : List Entry) :
    assemble root parts entries =
      Text.unlines ((outline root parts entries).flatMap Section.pieces) := by
  have htree : (if parts.tree then [treeOutline root (entries.map Entry.path)] else []).flatMap
      Section.pieces = if parts.tree then treeSection root (entries.map Entry.path) else [] := by
    split <;> rfl
  have hcontents : (if parts.contents && !entries.isEmpty then
      [contentsOutline (entries.map Entry.path)] else []).flatMap Section.pieces =
        if parts.contents && !entries.isEmpty then contentsSection (entries.map Entry.path) else [] := by
    split <;> rfl
  have hfiles : (filesOutline entries :: entries.map (fileOutline parts)).flatMap Section.pieces =
      filesSection parts entries := by
    rw [List.flatMap_cons, List.flatMap_map, filesSection]
    cases entries <;> rfl
  rw [outline, List.flatMap_append, List.cons_append, List.flatMap_cons, List.flatMap_append, htree,
    hcontents, hfiles, assemble, List.isEmpty_map]
  rfl

theorem map_outline (root : Text) (parts : Parts) (entries : List Entry) :
    (outline root parts entries).map (fun s => (s.level, Text.trim s.text)) =
      headingTexts root parts (entries.map Entry.path) := by
  have htree : Text.trim "Directory Structure".toList = "Directory Structure".toList := by decide
  have hcontents : Text.trim "Table of Contents".toList = "Table of Contents".toList := by decide
  rw [outline, headingTexts, List.isEmpty_map, List.map_append, List.map_append, List.map_cons,
    List.map_cons, List.map_map, List.map_map]
  congr 1
  · congr 1
    · congr 1
      split
      · exact congrArg (fun text => [(2, text)]) htree
      · rfl
    · split
      · exact congrArg (fun text => [(2, text)]) hcontents
      · rfl

def codeOf (read : Text → List Text) (root : Text) (parts : Parts) (entries : List Entry) : List Text :=
  (if parts.tree then read (Tree.render root (Tree.ofPaths (entries.map Entry.path))) else []) ++
    entries.flatMap fun entry => read (code parts entry)

theorem flatMap_code_outline (read : Text → List Text) (root : Text) (parts : Parts)
    (entries : List Entry) :
    (outline root parts entries).flatMap (fun s => s.below.code read) =
      codeOf read root parts entries := by
  have htree : (if parts.tree then [treeOutline root (entries.map Entry.path)] else []).flatMap
      (fun s => s.below.code read) =
        if parts.tree then read (Tree.render root (Tree.ofPaths (entries.map Entry.path))) else [] := by
    split
    · exact List.append_nil _
    · rfl
  have hcontents : (if parts.contents && !entries.isEmpty then
      [contentsOutline (entries.map Entry.path)] else []).flatMap (fun s => s.below.code read) = [] := by
    split <;> rfl
  have hfiles : (filesOutline entries).below.code read = [] := by
    rw [filesOutline]
    split <;> rfl
  have htitle : (titleOutline root).below.code read = [] := rfl
  rw [outline, codeOf, List.flatMap_append, List.cons_append, List.flatMap_cons, List.flatMap_append,
    List.flatMap_cons, List.flatMap_map, htitle, htree, hcontents, hfiles]
  simp [fileOutline, Below.code]

theorem forall_mem_outline {p : Section → Prop} {root : Text} {parts : Parts} {entries : List Entry}
    (htitle : p (titleOutline root))
    (htree : parts.tree = true → p (treeOutline root (entries.map Entry.path)))
    (hcontents : entries ≠ [] → p (contentsOutline (entries.map Entry.path)))
    (hfiles : p (filesOutline entries)) (hfile : ∀ entry ∈ entries, p (fileOutline parts entry)) :
    ∀ s ∈ outline root parts entries, p s := by
  intro s hs
  rw [outline, List.mem_append, List.mem_append, List.mem_cons, List.mem_cons, List.mem_map] at hs
  rcases hs with ((rfl | hs) | hs) | rfl | ⟨entry, he, rfl⟩
  · exact htitle
  · split at hs
    · next ht =>
        rw [List.mem_singleton.1 hs]
        exact htree ht
    · exact absurd hs List.not_mem_nil
  · split at hs
    · next hc =>
        rw [List.mem_singleton.1 hs]
        exact hcontents (by simpa using (Bool.and_eq_true_iff.1 hc).2)
    · exact absurd hs List.not_mem_nil
  · exact hfiles
  · exact hfile entry he

section

variable {root : Text} {parts : Parts} {entries : List Entry} (hroot : Text.OneLine root)
  (hpaths : ∀ entry ∈ entries, Text.OneLine entry.path)

include hroot hpaths

theorem closes_of_mem_lines_render {line : Text}
    (h : line ∈ Text.lines (Tree.render root (Tree.ofPaths (entries.map Entry.path)))) (n : Nat) :
    closes n line = false := by
  have hpaths' : ∀ path ∈ entries.map Entry.path, Text.OneLine path := by simpa using hpaths
  obtain ⟨-, hc | hc⟩ := Tree.solid_of_mem_lines_render hroot hpaths' h
  · exact closes_of_mem hc (by decide) (by decide) n
  · exact closes_of_mem hc (by decide) (by decide) n

theorem sound_outline : ∀ s ∈ outline root parts entries, s.Sound Text.lines := by
  have htitle : Text.OneLine (defaultTitle ++ ": ".toList) := by decide
  have htree : Text.OneLine "Directory Structure".toList := by decide
  have hcontents : Text.OneLine "Table of Contents".toList := by decide
  have hfiles : Text.OneLine "Files".toList := by decide
  have hnone : ∀ line ∈ Text.lines "_No files exported._".toList,
      line ≠ [] ∧ line.head? ≠ some '#' ∧ line.head? ≠ some tick := by decide
  have hfence : '\n' ∉ "```text".toList ∧ '\n' ∉ "```".toList ∧
      opens? "```text".toList = some 3 ∧ closes 3 "```".toList = true := by decide
  apply forall_mem_outline
  · exact ⟨Nat.succ_ne_zero 0, htitle.append hroot, trivial⟩
  · intro _
    obtain ⟨hopening, hclosing, hopen, hclose⟩ := hfence
    exact ⟨Nat.succ_ne_zero 1, htree, hopening, hclosing, 3, hopen, hclose,
      fun line hl => closes_of_mem_lines_render hroot hpaths hl 3⟩
  · intro hne
    refine ⟨Nat.succ_ne_zero 1, hcontents, fun line hl => ?_⟩
    have hhead := head?_of_mem_lines_contents (by simpa using hne) (by simpa using hpaths) hl
    rw [hhead]
    refine ⟨?_, by decide, by decide⟩
    rintro rfl
    simp at hhead
  · refine ⟨Nat.succ_ne_zero 1, hfiles, ?_⟩
    rw [filesOutline]
    split
    · exact hnone
    · trivial
  · intro entry he
    have hopening : '\n' ∉ fence (code parts entry) ++ language entry.extension :=
      (Text.oneLine_of_visible fun c hc => visible_of_mem_opening hc).break_not_mem
    have hclosing : '\n' ∉ fence (code parts entry) :=
      (Text.oneLine_of_visible fun c hc => visible_of_mem_fence hc).break_not_mem
    exact ⟨Nat.succ_ne_zero 2, hpaths entry he, hopening, hclosing, _, opens?_fence _ _,
      closes_fence _,
      fun line hl => closes_fenceLength hl⟩

theorem lines_assemble :
    Text.lines (assemble root parts entries) =
      (outline root parts entries).flatMap (Section.lines Text.lines) := by
  have hne : (outline root parts entries).flatMap Section.pieces ≠ [] := by
    simp [outline, Section.pieces]
  rw [assemble_eq, Text.lines_unlines_flatMap hne, List.flatMap_assoc]
  exact List.flatMap_congr fun s hs => (sound_outline hroot hpaths s hs).flatMap_pieces

end

/-- The raw document keeps every file in its fence: the kinds of its lines, its code and its headings
are those of the outline, whatever the files hold, and each content comes back out of its code. -/
theorem assemble_contains_files (root : Text) (parts : Parts) (entries : List Entry)
    (hroot : Text.OneLine root) (hpaths : ∀ entry ∈ entries, Text.OneLine entry.path) :
    kinded (Text.lines (assemble root parts entries)) =
        (outline root parts entries).flatMap (Section.layout Text.lines) ∧
      codeLines (kinded (Text.lines (assemble root parts entries))) =
        codeOf Text.lines root parts entries ∧
      (headings (Text.lines (assemble root parts entries))).map
          (fun heading => (heading.level, heading.text)) =
        headingTexts root parts (entries.map Entry.path) ∧
      ∀ entry ∈ entries,
        recovered parts.lineNumbers (Text.lines (code parts entry)) = dropEndBreaks entry.content ∧
        IsBodyOf (dropEndBreaks entry.content) entry.content ∧
        (∀ line ∈ Text.lines (code parts entry),
          closes (fenceLength (code parts entry)) line = false) ∧
        ∀ line ∈ Text.lines (cleanBlanks (code parts entry)),
          closes (fenceLength (code parts entry)) line = false := by
  have hsound : ∀ s ∈ outline root parts entries, s.Sound Text.lines := sound_outline hroot hpaths
  have hkinded := kinded_sections hsound
  rw [lines_assemble hroot hpaths]
  refine ⟨hkinded, ?_, ?_, fun entry _ => ⟨recovered_code parts entry, isBodyOf_dropEndBreaks _,
    fun line hl => closes_fenceLength hl, fun line hl => closes_fenceLength_cleanBlanks hl⟩⟩
  · rw [hkinded, codeLines_flatMap_layout, flatMap_code_outline]
  · rw [headings_sections hsound, map_outline]

end

theorem assemble_contains_files_numbered :
    Text.OneLine "a".toList ∧ Text.OneLine "b `c`.md".toList ∧
      (headings (Text.lines (assemble "a".toList ⟨false, true, true⟩
        [⟨"b `c`.md".toList, ".md".toList, "```\r# d\r\n\r\n".toList⟩]))).map
          (fun heading => (heading.level, heading.text)) =
        [(1, "Source Code Export: a".toList), (2, "Table of Contents".toList), (2, "Files".toList),
          (3, "b `c`.md".toList)] := by
  have hroot : Text.OneLine "a".toList := by decide
  have hpath : Text.OneLine "b `c`.md".toList := by decide
  obtain ⟨-, -, hheadings, -⟩ := assemble_contains_files "a".toList ⟨false, true, true⟩
    [⟨"b `c`.md".toList, ".md".toList, "```\r# d\r\n\r\n".toList⟩] hroot (by simpa using hpath)
  rw [hheadings]
  exact ⟨hroot, hpath, by decide⟩

end SourceBook.Document
