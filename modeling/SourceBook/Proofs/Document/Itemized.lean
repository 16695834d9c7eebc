import SourceBook.Proofs.Document.Normalized

namespace SourceBook.Document

open Markdown

def Opens (line : Text) : Prop := line.head? = some '-' ∨ line.head? = some '|'

theorem Opens.append {line : Text} (h : Opens line) (rest : Text) : Opens (line ++ rest) :=
  h.imp (fun ho => by rw [List.head?_append, ho]; rfl) fun ho => by rw [List.head?_append, ho]; rfl

instance (line : Text) : Decidable (Opens line) :=
  inferInstanceAs (Decidable (line.head? = some '-' ∨ line.head? = some '|'))

structure IsItem (line : Text) : Prop where
  flat : Text.Flat line
  opening : Opens line
  trimmed : Text.trimEnd line = line

theorem isItem_iff {line : Text} :
    IsItem line ↔ Text.Flat line ∧ Opens line ∧ Text.trimEnd line = line :=
  ⟨fun h => ⟨h.flat, h.opening, h.trimmed⟩, fun h => ⟨h.1, h.2.1, h.2.2⟩⟩

instance (line : Text) : Decidable (IsItem line) := decidable_of_iff _ isItem_iff.symm

theorem isItem_append {line last : Text} (hline : Text.Flat line) (hlast : Text.Flat last)
    (hopen : Opens line) (htrim : Text.trimEnd last = last) (hne : last ≠ []) : IsItem (line ++ last) :=
  ⟨Text.flat_append.2 ⟨hline, hlast⟩, hopen.append last, Text.trimEnd_append_of_trimmed htrim hne line⟩

theorem IsItem.ne_nil {line : Text} (h : IsItem line) : line ≠ [] := by
  rintro rfl
  exact h.opening.elim nofun nofun

theorem IsItem.head?_ne {line : Text} (h : IsItem line) {c : Char} (hdash : c ≠ '-') (hbar : c ≠ '|') :
    line.head? ≠ some c := by
  intro hc
  rcases h.opening with ho | ho
  · rw [ho, Option.some_inj] at hc
    exact hdash hc.symm
  · rw [ho, Option.some_inj] at hc
    exact hbar hc.symm

theorem lines_unlines_items {items : List Text} (hne : items ≠ []) (h : ∀ item ∈ items, IsItem item) :
    Text.lines (Text.unlines items) = items :=
  Text.lines_unlines (fun item hi => (h item hi).flat.2.2) hne

structure Section.Itemized (s : Section) : Prop where
  level : s.level ≠ 0
  text : IsPlain s.text
  below : ∃ items ≠ [], s.below = .prose (Text.unlines items) ∧ ∀ item ∈ items, IsItem item

section

variable {s : Section} (h : s.Itemized)

include h

theorem Section.Itemized.plain : s.Plain := by
  obtain ⟨hone, hclean, hne⟩ := h.text
  refine ⟨hone, hclean ▸ tab_not_mem_cleanLine s.text, ?_, ?_⟩
  · rw [Bool.eq_false_iff]
    intro hblank
    exact hne (Text.eq_nil_of_allBlank (hclean ▸ trimEnd_cleanLine s.text) hblank)
  · obtain ⟨items, hitems, hs, hitem⟩ := h.below
    rw [hs]
    constructor
    · intro hc
      obtain hc | ⟨item, hi, hc⟩ := Text.mem_unlines hc
      · exact absurd hc (by decide)
      · exact (hitem item hi).flat.2.1 hc
    · intro line hl
      rw [lines_unlines_items hitems hitem] at hl
      have hline := hitem line hl
      exact ⟨(cleanLine_of_tab_not_mem hline.flat.1).trans hline.trimmed, hline.ne_nil⟩

theorem Section.Itemized.trimmed_eq : s.trimmed = s := by
  have htrim : Text.trimEnd s.text = s.text := h.text.2.1 ▸ trimEnd_cleanLine s.text
  rw [trimmed, htrim]

theorem Section.Itemized.sound (read : Text → List Text) : s.Sound read := by
  refine ⟨h.level, h.text.1, ?_⟩
  obtain ⟨items, hitems, hs, hitem⟩ := h.below
  rw [hs]
  intro line hl
  rw [lines_unlines_items hitems hitem] at hl
  have hline := hitem line hl
  exact ⟨hline.ne_nil, hline.head?_ne (by decide) (by decide), hline.head?_ne (by decide) (by decide)⟩

theorem Section.Itemized.lines_eq (read : Text → List Text) : s.lines read = s.lines Text.lines := by
  obtain ⟨items, -, hs, -⟩ := h.below
  rw [lines, lines, layout, layout, hs]
  rfl

theorem Section.Itemized.mem_lines {read : Text → List Text} {line : Text} (hl : line ∈ s.lines read) :
    line = s.heading ∨ line.head? ≠ some '#' := by
  obtain ⟨items, hitems, hs, hitem⟩ := h.below
  rw [lines, layout, hs, List.map_cons, List.map_cons, Below.map_fst_prose,
    lines_unlines_items hitems hitem] at hl
  simp only [List.mem_cons, List.mem_append, List.not_mem_nil, or_false] at hl
  rcases hl with rfl | rfl | hl | rfl
  · exact .inl rfl
  · exact .inr (by simp)
  · exact .inr ((hitem line hl).head?_ne (by decide) (by decide))
  · exact .inr (by simp)

end

theorem flatMap_pieces_itemized {sections : List Section} (h : ∀ s ∈ sections, s.Itemized) :
    (sections.flatMap Section.pieces).flatMap Text.lines = sections.flatMap (Section.lines Text.lines) := by
  rw [List.flatMap_assoc]
  exact List.flatMap_congr fun s hs => ((h s hs).sound Text.lines).flatMap_pieces

theorem normalize_itemized {first : Section} {rest : List Section}
    (h : ∀ s ∈ first :: rest, s.Itemized) (hlevel : first.level = 1) :
    normalize (Text.unlines ((first :: rest).flatMap Section.pieces)) =
      Text.unlines ((first :: rest).flatMap Section.pieces) := by
  have htrimmed : (first :: rest).map Section.trimmed = first :: rest :=
    (List.map_congr_left fun s hs => (h s hs).trimmed_eq).trans (List.map_id _)
  have hcode : ∀ line ∈ (first :: rest).flatMap fun s => s.below.code cleanedLines,
      Text.width line ≤ wrapThreshold := by
    intro line hl
    obtain ⟨s, hs, hl⟩ := List.mem_flatMap.1 hl
    obtain ⟨items, -, hbelow, -⟩ := (h s hs).below
    rw [hbelow] at hl
    exact absurd hl List.not_mem_nil
  have hsound : ∀ s ∈ first :: rest, s.trimmed.Sound cleanedLines := by
    intro s hs
    rw [(h s hs).trimmed_eq]
    exact (h s hs).sound cleanedLines
  have hlines := lines_normalize_sections (fun s hs => (h s hs).plain) hsound hlevel hcode
  have hpieces : (first :: rest).flatMap Section.pieces ≠ [] := by
    simp [Section.pieces]
  rw [htrimmed, List.flatMap_congr fun s hs => (h s hs).lines_eq tidyLines,
    ← flatMap_pieces_itemized h] at hlines
  rw [← Text.unlines_lines (normalize _), hlines, Text.unlines_flatMap_lines hpieces]

end SourceBook.Document
