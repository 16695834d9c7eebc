import SourceBook.Proofs.Markdown.FixedPoints
import SourceBook.Proofs.Markdown.Repeats

namespace SourceBook.Markdown

theorem isHeading_numbered {level : Nat} (h : level ≠ 0) (text : Text) (n : Nat) :
    isHeading (numbered level text n) = true := by
  rw [numbered_eq, isHeading_replicate_append (by simp)]
  simp [h, Text.isBlank_space]

theorem not_isCramped_numbered (level : Nat) (text : Text) (n : Nat) :
    ¬ IsCramped (numbered level text n) := by
  rw [numbered_eq, isCramped_replicate_append (by simp)]
  simp [Text.isBlank_space]

theorem trimEnd_numbered (level : Nat) (text : Text) (n : Nat) :
    Text.trimEnd (numbered level text n) = numbered level text n := by
  rw [numbered, Text.trimEnd_concat]
  rfl

section

variable (above : List Text) (p : Text × LineKind)

theorem isHeadingLine_renumbered : isHeadingLine (renumbered above p, p.2) = isHeadingLine p := by
  rcases renumbered_cases above p with hs | ⟨level, text, n, hk, hparts, hs⟩
  · rw [hs]
  · obtain ⟨hlevel, hheading, -, -⟩ := exists_of_headingParts? hparts
    rw [hs, isHeadingLine, isHeadingLine, hk, isHeading_numbered hlevel, hheading]

theorem isEmpty_renumbered : (renumbered above p).isEmpty = p.1.isEmpty := by
  rcases renumbered_cases above p with hs | ⟨level, text, n, -, hparts, hs⟩
  · rw [hs]
  · obtain ⟨-, hheading, -, -⟩ := exists_of_headingParts? hparts
    have hne : p.1 ≠ [] := by
      intro hnil
      rw [hnil] at hheading
      exact absurd hheading (by decide)
    rw [hs, List.isEmpty_eq_false_iff.2 hne, List.isEmpty_eq_false_iff, numbered_eq]
    simp

theorem renumbered_eq_nil_iff : renumbered above p = [] ↔ p.1 = [] := by
  rw [← List.isEmpty_iff, isEmpty_renumbered, List.isEmpty_iff]

theorem renumbered_nil : renumbered [] p = p.1 := by
  rw [renumbered]
  split <;> rfl

theorem renumbered_code (line : Text) : renumbered above (line, .code) = line :=
  renumbered_of_none rfl above

variable {p}

theorem Apart.renumbered {q : Text × LineKind} (h : Apart p q) (above' : List Text) :
    Apart (renumbered above p, p.2) (renumbered above' q, q.2) := by
  rwa [Apart, isHeadingLine_renumbered, isHeadingLine_renumbered, renumbered_eq_nil_iff,
    renumbered_eq_nil_iff]

theorem Clean.renumbered (h : Clean p) : Clean (renumbered above p, p.2) := by
  refine ⟨fun hc => ?_, fun hc => ?_, ?_, fun hk => ?_⟩
  · rcases mem_renumbered hc with hc | hc | hc
    · exact absurd hc (by decide)
    · exact absurd hc (by decide)
    · exact h.noReturn hc
  · rcases mem_renumbered hc with hc | hc | hc
    · exact absurd hc (by decide)
    · exact absurd hc (by decide)
    · exact h.noTab hc
  · rcases renumbered_cases above p with hs | ⟨level, text, n, -, -, hs⟩
    · rw [hs, h.trimmed]
    · rw [hs, trimEnd_numbered]
  · rcases renumbered_cases above p with hs | ⟨level, text, n, -, -, hs⟩
    · rw [hs]
      exact h.marked hk
    · rw [hs]
      exact not_isCramped_numbered level text n

end

section

variable {lines others : List Text} (h : others.map List.isEmpty = lines.map List.isEmpty)

include h

/-- Where two lines in a row are empty is seen from which lines are. -/
theorem noGap_of_map_isEmpty
    (hgap : ∀ above below, lines = above ++ [] :: [] :: below → above = [] ∨ below = []) :
    ∀ above below, others = above ++ [] :: [] :: below → above = [] ∨ below = [] := by
  rintro above below rfl
  rw [List.map_append, List.map_cons, List.map_cons, eq_comm] at h
  obtain ⟨upper, rest, rfl, habove, hrest⟩ := List.map_eq_append_iff.1 h
  obtain ⟨first, rest, rfl, hfirst, hrest⟩ := List.map_eq_cons_iff.1 hrest
  obtain ⟨second, lower, rfl, hsecond, hbelow⟩ := List.map_eq_cons_iff.1 hrest
  obtain rfl := List.isEmpty_iff.1 hfirst
  obtain rfl := List.isEmpty_iff.1 hsecond
  refine (hgap upper lower rfl).imp ?_ ?_
  · rintro rfl
    exact List.map_eq_nil_iff.1 habove.symm
  · rintro rfl
    exact List.map_eq_nil_iff.1 hbelow.symm

theorem exists_last_of_map_isEmpty {init : List Text} {last : Text} (hs : lines = init ++ [last, []])
    (hlast : last ≠ []) : ∃ upper final, others = upper ++ [final, []] ∧ final ≠ [] := by
  rw [hs, List.map_append, List.map_cons, List.map_singleton] at h
  obtain ⟨upper, rest, rfl, -, hrest⟩ := List.map_eq_append_iff.1 h
  obtain ⟨final, rest, rfl, hfinal, hrest⟩ := List.map_eq_cons_iff.1 hrest
  obtain ⟨empty, rest, rfl, hempty, hrest⟩ := List.map_eq_cons_iff.1 hrest
  obtain rfl := List.map_eq_nil_iff.1 hrest
  obtain rfl := List.isEmpty_iff.1 hempty
  refine ⟨upper, final, rfl, ?_⟩
  rintro rfl
  exact hlast (List.isEmpty_iff.1 hfinal.symm)

end

theorem map_isEmpty_distinguishHeadings (content : Text) :
    (Text.lines (distinguishHeadings content)).map List.isEmpty =
      (Text.lines content).map List.isEmpty := by
  have hmap (lines : List Text) : lines.map List.isEmpty = (kinded lines).map fun p => p.1.isEmpty := by
    conv_lhs => rw [← map_fst_kinded lines, List.map_map]
    rfl
  rw [hmap, hmap]
  exact map_kinded_distinguishHeadings content fun above p => isEmpty_renumbered above p

section

variable {content : Text}

theorem mem_kinded_distinguishHeadings {p : Text × LineKind}
    (h : p ∈ kinded (Text.lines (distinguishHeadings content))) :
    ∃ above, ∃ q ∈ kinded (Text.lines content), (renumbered above q, q.2) = p := by
  rw [kinded_distinguishHeadings] at h
  obtain ⟨i, hi, heq⟩ := List.mem_mapIdx.1 h
  exact ⟨_, _, List.getElem_mem hi, heq⟩

theorem tidy_distinguishHeadings (h : Tidy (Text.lines content)) :
    Tidy (Text.lines (distinguishHeadings content)) where
  clean := fun p hp => by
    obtain ⟨above, q, hq, rfl⟩ := mem_kinded_distinguishHeadings hp
    exact (h.clean q hq).renumbered above
  apart := by
    rw [kinded_distinguishHeadings, List.isChain_iff_getElem]
    intro i hi
    rw [List.getElem_mapIdx, List.getElem_mapIdx]
    exact (List.isChain_iff_getElem.1 h.apart i (by simpa using hi)).renumbered _ _
  noGap := noGap_of_map_isEmpty (map_isEmpty_distinguishHeadings content) h.noGap

theorem titled_distinguishHeadings (h : Titled (Text.lines content)) :
    Titled (Text.lines (distinguishHeadings content)) := by
  obtain ⟨first, rest, hs, hf⟩ := h
  rw [lines_distinguishHeadings, hs, kinded_eq_kindedFrom, kindedFrom_cons, distinguishFrom_cons,
    renumbered_nil]
  exact ⟨first, _, rfl, hf⟩

theorem framed_distinguishHeadings (h : Tidy (Text.lines content)) {body : Text} {c : Char}
    (hbody : content = body ++ [c, '\n']) (hc : Text.isBlank c = false) :
    ∃ body c, distinguishHeadings content = body ++ [c, '\n'] ∧ Text.isBlank c = false := by
  obtain ⟨init, last, hs, hlast⟩ := Text.exists_lines_eq hbody hc
  obtain ⟨upper, final, hs', hfinal⟩ :=
    exists_last_of_map_isEmpty (map_isEmpty_distinguishHeadings content) hs hlast
  have htrimmed := (tidy_distinguishHeadings h).trimmed final (by simp [hs'])
  rw [← Text.unlines_lines (distinguishHeadings content), hs']
  exact Text.exists_unlines_eq upper hfinal htrimmed

theorem canonical_distinguishHeadings (h : Canonical content) :
    Canonical (distinguishHeadings content) := by
  refine (tidy_distinguishHeadings h.tidy).canonical ?_ fun line hline => ?_
  · rcases h.framed with rfl | ⟨htitled, body, c, hbody, hc⟩
    · exact .inl rfl
    · exact .inr ⟨titled_distinguishHeadings htitled, framed_distinguishHeadings h.tidy hbody hc⟩
  · obtain ⟨above, ⟨source, kind⟩, hp, heq⟩ := mem_kinded_distinguishHeadings hline
    obtain ⟨hs, rfl⟩ := Prod.mk.inj heq
    rw [renumbered_code] at hs
    exact h.narrow line (hs ▸ hp)

end

end SourceBook.Markdown
