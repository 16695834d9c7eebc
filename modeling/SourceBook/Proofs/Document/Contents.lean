import SourceBook.Document.Contents
import SourceBook.Proofs.Document.Numbering
import SourceBook.Proofs.Text.Trim

namespace SourceBook.Document

open Text (isBlank_of_isDigit)

theorem visible_of_mem_slug {text : Text} {c : Char} (h : c ∈ slug text) : Text.isBlank c = false := by
  rw [slug, List.mem_map] at h
  obtain ⟨d, -, rfl⟩ := h
  split
  · rfl
  · next hd => simpa using hd

theorem visible_of_mem_anchorsFrom {earlier texts : List Text} {anchor : Text}
    (h : anchor ∈ anchorsFrom earlier texts) : ∀ c ∈ anchor, Text.isBlank c = false := by
  induction texts generalizing earlier with
  | nil => exact absurd h List.not_mem_nil
  | cons text texts ih =>
      rw [anchorsFrom, List.mem_cons] at h
      rcases h with rfl | h
      · intro c hc
        split at hc
        · exact visible_of_mem_slug hc
        · rw [List.mem_append, List.mem_cons] at hc
          rcases hc with hc | rfl | hc
          · exact visible_of_mem_slug hc
          · rfl
          · exact isBlank_of_isDigit (isDigit_of_mem_toString hc)
      · exact ih h

theorem length_anchorsFrom (earlier texts : List Text) :
    (anchorsFrom earlier texts).length = texts.length := by
  induction texts generalizing earlier with
  | nil => rfl
  | cons text texts ih => rw [anchorsFrom, List.length_cons, List.length_cons, ih]

theorem exists_of_mem_zipWith_contentsLine {paths anchors : List Text} {line : Text}
    (h : line ∈ List.zipWith contentsLine paths anchors) :
    ∃ path ∈ paths, ∃ anchor ∈ anchors, line = contentsLine path anchor := by
  rw [← List.map_uncurry_zip_eq_zipWith, List.mem_map] at h
  obtain ⟨⟨path, anchor⟩, hp, rfl⟩ := h
  obtain ⟨hpath, hanchor⟩ := List.of_mem_zip hp
  exact ⟨path, hpath, anchor, hanchor, rfl⟩

theorem mem_contentsLine {path anchor : Text} {c : Char} (h : c ∈ contentsLine path anchor) :
    c ∈ path ∨ c ∈ anchor ∨ c ∈ "- [](#)".toList := by
  have hmarks : ∀ c, c ∈ "- [".toList ∨ c ∈ "](#".toList ∨ c ∈ [')'] → c ∈ "- [](#)".toList := by
    simp
    tauto
  have hline : c ∈ "- [".toList ++ path ++ "](#".toList ++ anchor ++ [')'] := h
  rw [List.mem_append, List.mem_append, List.mem_append, List.mem_append] at hline
  rcases hline with (((hc | hc) | hc) | hc) | hc
  · exact .inr (.inr (hmarks c (.inl hc)))
  · exact .inl hc
  · exact .inr (.inr (hmarks c (.inr (.inl hc))))
  · exact .inr (.inl hc)
  · exact .inr (.inr (hmarks c (.inr (.inr hc))))

theorem lines_contents {paths : List Text} (hne : paths ≠ []) (h : ∀ path ∈ paths, Text.OneLine path) :
    ∀ line ∈ Text.lines (contents paths), ∃ path ∈ paths, ∃ anchor : Text,
      (∀ c ∈ anchor, Text.isBlank c = false) ∧ line = contentsLine path anchor := by
  have hlines : Text.lines (contents paths) = List.zipWith contentsLine paths (anchors paths) := by
    apply Text.lines_unlines
    · intro line hl hc
      obtain ⟨path, hp, anchor, ha, rfl⟩ := exists_of_mem_zipWith_contentsLine hl
      rcases mem_contentsLine hc with hc | hc | hc
      · exact (h path hp).break_not_mem hc
      · exact absurd (visible_of_mem_anchorsFrom ha _ hc) (by decide)
      · exact absurd hc (by decide)
    · intro hnil
      have hlen := length_anchorsFrom [] paths
      rw [List.zipWith_eq_nil_iff] at hnil
      rcases hnil with hnil | hnil
      · exact hne hnil
      · rw [anchors] at hnil
        rw [hnil] at hlen
        exact hne (List.eq_nil_of_length_eq_zero hlen.symm)
  intro line hl
  rw [hlines] at hl
  obtain ⟨path, hp, anchor, ha, rfl⟩ := exists_of_mem_zipWith_contentsLine hl
  exact ⟨path, hp, anchor, visible_of_mem_anchorsFrom ha, rfl⟩

theorem head?_of_mem_lines_contents {paths : List Text} (hne : paths ≠ [])
    (h : ∀ path ∈ paths, Text.OneLine path) {line : Text} (hl : line ∈ Text.lines (contents paths)) :
    line.head? = some '-' := by
  obtain ⟨path, -, anchor, -, rfl⟩ := lines_contents hne h line hl
  rfl

end SourceBook.Document
