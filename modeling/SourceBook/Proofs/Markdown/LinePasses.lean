import SourceBook.Proofs.Markdown.Canonical
import SourceBook.Proofs.Text.Breaks

namespace SourceBook.Markdown

def cleanLine (line : Text) : Text :=
  Text.trimEnd (Text.replaceChar '\t' (List.replicate 4 ' ') line)

theorem mem_cleanLine {c : Char} {line : Text} (h : c ∈ cleanLine line) : c = ' ' ∨ c ∈ line := by
  have hm := (Text.trimEnd_isPrefix _).subset h
  rw [Text.replaceChar, List.mem_flatMap] at hm
  obtain ⟨d, hd, hc⟩ := hm
  split at hc
  · exact .inl (List.eq_of_mem_replicate hc)
  · rw [List.mem_singleton.1 hc]
    exact .inr hd

theorem tab_not_mem_cleanLine (line : Text) : '\t' ∉ cleanLine line := by
  intro h
  have hm := (Text.trimEnd_isPrefix _).subset h
  rw [Text.replaceChar, List.mem_flatMap] at hm
  obtain ⟨d, -, hc⟩ := hm
  split at hc
  · exact absurd (List.eq_of_mem_replicate hc) (by decide)
  · next hd => exact hd (List.mem_singleton.1 hc).symm

theorem mem_cleanLine_of_visible {c : Char} {line : Text} (h : c ∈ line) (hb : Text.isBlank c = false) :
    c ∈ cleanLine line := by
  have htab : c ≠ '\t' := by
    rintro rfl
    exact absurd hb (by decide)
  have hr : c ∈ Text.visible (Text.replaceChar '\t' (List.replicate 4 ' ') line) := by
    rw [Text.visible, List.mem_filter, Text.replaceChar, List.mem_flatMap]
    exact ⟨⟨c, h, by simp [htab]⟩, by simp [hb]⟩
  rw [← Text.visible_trimEnd] at hr
  exact List.mem_of_mem_filter hr

theorem trimEnd_cleanLine (line : Text) : Text.trimEnd (cleanLine line) = cleanLine line :=
  Text.trimEnd_trimEnd _

theorem cleanLine_of_tab_not_mem {line : Text} (h : '\t' ∉ line) :
    cleanLine line = Text.trimEnd line := by
  have hr : Text.replaceChar '\t' (List.replicate 4 ' ') line = line := by
    induction line with
    | nil => rfl
    | cons c line ih =>
        rw [List.mem_cons, not_or] at h
        have hl := ih h.2
        rw [Text.replaceChar] at hl ⊢
        rw [List.flatMap_cons, if_neg (Ne.symm h.1), hl, List.singleton_append]
  rw [cleanLine, hr]

theorem lines_cleanBlanks (content : Text) :
    Text.lines (cleanBlanks content) = (Text.breakLines content).map cleanLine := by
  refine Text.lines_unlines (fun line hl => ?_) (by simpa [Text.breakLines] using Text.lines_ne_nil _)
  obtain ⟨piece, hp, rfl⟩ := List.mem_map.1 hl
  intro hc
  rcases mem_cleanLine hc with hc | hc
  · exact absurd hc (by decide)
  · exact (Text.mem_breakLines hp).1 hc

def cleanedLines (text : Text) : List Text := (Text.lines (cleanBlanks (text ++ ['\n']))).dropLast

theorem lines_cleanBlanks_append_break (a b : Text) :
    Text.lines (cleanBlanks (a ++ '\n' :: b)) = cleanedLines a ++ Text.lines (cleanBlanks b) := by
  rw [cleanedLines, lines_cleanBlanks, lines_cleanBlanks, lines_cleanBlanks,
    Text.breakLines_append_break, List.map_append, List.map_dropLast]

theorem lines_cleanBlanks_unlines (pieces : List Text) :
    Text.lines (cleanBlanks (Text.unlines (pieces ++ [[]]))) = pieces.flatMap cleanedLines ++ [[]] := by
  rw [Text.unlines_append_nil]
  induction pieces with
  | nil => rfl
  | cons piece pieces ih =>
      rw [List.flatMap_cons, List.append_assoc, List.singleton_append, lines_cleanBlanks_append_break,
        ih, List.flatMap_cons, List.append_assoc]

theorem cleanedLines_of_return_not_mem {text : Text} (h : '\r' ∉ text) :
    cleanedLines text = (Text.lines text).map cleanLine := by
  rw [cleanedLines, lines_cleanBlanks, Text.breakLines_eq_lines (by simpa using h),
    Text.lines_append_break, Text.lines_nil, ← List.map_dropLast, List.dropLast_concat]

theorem mem_lines_cleanBlanks {content line : Text} (h : line ∈ Text.lines (cleanBlanks content)) :
    '\r' ∉ line ∧ '\t' ∉ line ∧ Text.trimEnd line = line := by
  rw [lines_cleanBlanks, List.mem_map] at h
  obtain ⟨piece, hp, rfl⟩ := h
  refine ⟨fun hc => ?_, tab_not_mem_cleanLine piece, trimEnd_cleanLine piece⟩
  rcases mem_cleanLine hc with hc | hc
  · exact absurd hc (by decide)
  · exact (Text.mem_breakLines hp).2 hc

theorem mem_cleanBlanks {content : Text} {c : Char} (hspace : c ≠ ' ') (hbreak : c ≠ '\n')
    (h : c ∈ cleanBlanks content) : c ∈ content := by
  obtain ⟨line, hl, hc⟩ := Text.exists_mem_lines h hbreak
  rw [lines_cleanBlanks, List.mem_map] at hl
  obtain ⟨piece, hp, rfl⟩ := hl
  have hpiece := (mem_cleanLine hc).resolve_left hspace
  exact (Text.mem_unifyFrom (Text.mem_of_mem_lines hp hpiece)).resolve_left hbreak

theorem cleanBlanks_eq_self {content : Text} (hr : '\r' ∉ content) (ht : '\t' ∉ content)
    (h : ∀ line ∈ Text.lines content, Text.trimEnd line = line) : cleanBlanks content = content := by
  rw [← Text.unlines_lines (cleanBlanks content), lines_cleanBlanks, Text.breakLines_eq_lines hr]
  have hs : (Text.lines content).map cleanLine = Text.lines content := by
    refine (List.map_congr_left fun line hl => ?_).trans (List.map_id _)
    rw [cleanLine_of_tab_not_mem fun hc => ht (Text.mem_of_mem_lines hl hc), h line hl, id_eq]
  rw [hs, Text.unlines_lines]

theorem exists_marks (line : Text) :
    ∃ n rest, line = List.replicate n '#' ++ rest ∧ rest.head? ≠ some '#' := by
  induction line with
  | nil => exact ⟨0, [], rfl, by simp⟩
  | cons c line ih =>
      by_cases hc : c = '#'
      · obtain ⟨n, rest, rfl, hr⟩ := ih
        exact ⟨n + 1, rest, by rw [hc, List.replicate_succ, List.cons_append], hr⟩
      · exact ⟨0, c :: line, rfl, by simp [hc]⟩

section

variable {n : Nat} {rest : Text} (h : rest.head? ≠ some '#')

include h

theorem marks_replicate_append :
    marks (List.replicate n '#' ++ rest) = (List.replicate n '#', rest) := by
  have hr : rest.takeWhile isMark = [] ∧ rest.dropWhile isMark = rest := by
    cases rest with
    | nil => simp
    | cons c rest =>
        have hc : isMark c = false := by simpa [isMark] using h
        simp [hc]
  rw [marks, List.takeWhile_append_of_pos (by simp [isMark]),
    List.dropWhile_append_of_pos (by simp [isMark]), hr.1, hr.2, List.append_nil]

theorem isHeading_replicate_append :
    isHeading (List.replicate n '#' ++ rest) = (n ≠ 0 && rest.head?.any Text.isBlank) := by
  rw [isHeading, marks_replicate_append h]
  cases n <;> simp [List.replicate_succ]

theorem isCramped_replicate_append :
    IsCramped (List.replicate n '#' ++ rest) ↔ n ≠ 0 ∧ ∃ c ∈ rest.head?, Text.isBlank c = false := by
  constructor
  · rintro ⟨m, c, rest', hs, hc, hb⟩
    have hm := marks_replicate_append (n := n) h
    rw [hs, marks_replicate_append (by simpa using hc), Prod.mk.injEq] at hm
    obtain ⟨hn, rfl⟩ := hm
    have hlen := congrArg List.length hn
    rw [List.length_replicate, List.length_replicate] at hlen
    exact ⟨by omega, c, rfl, hb⟩
  · rintro ⟨hn, c, hc, hb⟩
    cases rest with
    | nil => simp at hc
    | cons d rest =>
        obtain rfl : d = c := by simpa using hc
        obtain ⟨m, rfl⟩ := Nat.exists_eq_succ_of_ne_zero hn
        exact ⟨m, d, rest, rfl, by simpa using h, hb⟩

end

theorem isHeading_of_head? {line : Text} (h : line.head? ≠ some '#') : isHeading line = false := by
  simpa using isHeading_replicate_append (n := 0) h

/-- A cramped line gets one space behind its marks. Any other line is left as it is. -/
theorem spaceMarks_cases (line : Text) :
    ¬ IsCramped line ∧ spaceMarks line = line ∨
      ∃ n c rest, line = List.replicate (n + 1) '#' ++ c :: rest ∧ c ≠ '#' ∧
        Text.isBlank c = false ∧ spaceMarks line = List.replicate (n + 1) '#' ++ ' ' :: c :: rest := by
  obtain ⟨n, rest, rfl, hr⟩ := exists_marks line
  rw [isCramped_replicate_append hr, spaceMarks, marks_replicate_append hr]
  cases n with
  | zero => simp
  | succ n =>
      cases rest with
      | nil => simp [List.replicate_succ]
      | cons c rest =>
          cases hb : Text.isBlank c with
          | true => simp [List.replicate_succ, hb]
          | false => exact .inr ⟨n, c, rest, rfl, by simpa using hr, hb, by simp [List.replicate_succ, hb]⟩

theorem not_isCramped_spaceMarks (line : Text) : ¬ IsCramped (spaceMarks line) := by
  rcases spaceMarks_cases line with ⟨hn, hs⟩ | ⟨n, c, rest, -, -, -, hs⟩
  · rwa [hs]
  · rw [hs, isCramped_replicate_append (by simp)]
    simp [Text.isBlank_space]

theorem spaceMarks_eq_self {line : Text} (h : ¬ IsCramped line) : spaceMarks line = line := by
  rcases spaceMarks_cases line with ⟨-, hs⟩ | ⟨n, c, rest, hl, hc, hb, -⟩
  · exact hs
  · exact absurd ⟨n, c, rest, hl, hc, hb⟩ h

theorem mem_spaceMarks {c : Char} {line : Text} (h : c ∈ spaceMarks line) : c = ' ' ∨ c ∈ line := by
  rcases spaceMarks_cases line with ⟨-, hs⟩ | ⟨n, d, rest, hl, -, -, hs⟩
  · exact .inr (hs ▸ h)
  · rw [hs] at h
    rw [hl]
    simp only [List.mem_append, List.mem_cons] at h ⊢
    tauto

theorem trimEnd_spaceMarks {line : Text} (h : Text.trimEnd line = line) :
    Text.trimEnd (spaceMarks line) = spaceMarks line := by
  rcases spaceMarks_cases line with ⟨-, hs⟩ | ⟨n, c, rest, hl, -, hb, hs⟩
  · rw [hs, h]
  · rw [hs]
    rw [hl, Text.trimEnd_eq_self_iff, List.getLast?_append_of_ne_nil _ (by simp)] at h
    rw [Text.trimEnd_eq_self_iff, List.getLast?_append_of_ne_nil _ (by simp)]
    simpa using h

theorem kindAt_spaceMarks {line : Text} (h : opens? line = none) :
    kindAt none (spaceMarks line) = (.text, none) := by
  rcases spaceMarks_cases line with ⟨-, hs⟩ | ⟨n, c, rest, -, -, -, hs⟩
  · rw [hs, kindAt_of_opens? h]
  · rw [hs]
    exact kindAt_of_head? (by simp [List.replicate_succ, tick]) none

def markLine (p : Text × LineKind) : Text := if p.2 = .text then spaceMarks p.1 else p.1

theorem kindedFrom_map_markLine (fence : Option Nat) (lines : List Text) :
    kindedFrom fence ((kindedFrom fence lines).map markLine) =
      (kindedFrom fence lines).map fun p => (markLine p, p.2) := by
  induction lines generalizing fence with
  | nil => rfl
  | cons line lines ih =>
      have hk : kindAt fence (markLine (line, (kindAt fence line).1)) = kindAt fence line := by
        by_cases ht : (kindAt fence line).1 = .text
        · obtain ⟨rfl, ho⟩ := kindAt_fst_eq_text_iff.1 ht
          rw [markLine, if_pos ht, kindAt_spaceMarks ho, kindAt_of_opens? ho]
        · rw [markLine, if_neg ht]
      simp [hk, ih]

theorem mem_markLine {c : Char} {p : Text × LineKind} (h : c ∈ markLine p) : c = ' ' ∨ c ∈ p.1 := by
  rw [markLine] at h
  split at h
  · exact mem_spaceMarks h
  · exact .inr h

theorem lines_spaceHeadingMarks (content : Text) :
    Text.lines (spaceHeadingMarks content) = (kinded (Text.lines content)).map markLine := by
  refine Text.lines_unlines (fun line hl hc => ?_) ?_
  · obtain ⟨p, hp, rfl⟩ := List.mem_map.1 hl
    rcases mem_markLine hc with hc | hc
    · exact absurd hc (by decide)
    · exact Text.not_mem_of_mem_lines (mem_of_mem_kinded hp) hc
  · rw [kinded_eq_kindedFrom]
    simpa using kindedFrom_ne_nil (Text.lines_ne_nil content) none

theorem kinded_spaceHeadingMarks (content : Text) :
    kinded (Text.lines (spaceHeadingMarks content)) =
      (kinded (Text.lines content)).map fun p => (markLine p, p.2) := by
  rw [lines_spaceHeadingMarks]
  exact kindedFrom_map_markLine none _

theorem spaceHeadingMarks_eq_self {content : Text}
    (h : ∀ line, (line, .text) ∈ kinded (Text.lines content) → ¬ IsCramped line) :
    spaceHeadingMarks content = content := by
  rw [← Text.unlines_lines (spaceHeadingMarks content), lines_spaceHeadingMarks]
  have hs : (kinded (Text.lines content)).map markLine = (kinded (Text.lines content)).map Prod.fst := by
    refine List.map_congr_left fun ⟨line, kind⟩ hp => ?_
    by_cases ht : kind = .text
    · subst ht
      exact spaceMarks_eq_self (h line hp)
    · rw [markLine, if_neg ht]
  rw [hs, kinded_eq_kindedFrom, map_fst_kindedFrom, Text.unlines_lines]

theorem clean_spaceHeadingMarks (content : Text) :
    ∀ p ∈ kinded (Text.lines (spaceHeadingMarks (cleanBlanks content))), Clean p := by
  intro p hp
  rw [kinded_spaceHeadingMarks, List.mem_map] at hp
  obtain ⟨⟨line, kind⟩, hm, rfl⟩ := hp
  obtain ⟨hr, ht, htrim⟩ := mem_lines_cleanBlanks (mem_of_mem_kinded hm)
  refine ⟨fun hc => (mem_markLine hc).elim (by decide) hr,
    fun hc => (mem_markLine hc).elim (by decide) ht, ?_, ?_⟩
  · rw [markLine]
    split
    · exact trimEnd_spaceMarks htrim
    · exact htrim
  · intro hk
    rw [markLine, if_pos hk]
    exact not_isCramped_spaceMarks line

theorem filter_spaceMarks {p : Char → Bool} (h : p ' ' = false) (line : Text) :
    (spaceMarks line).filter p = line.filter p := by
  rcases spaceMarks_cases line with ⟨-, hs⟩ | ⟨n, c, rest, hl, -, -, hs⟩
  · rw [hs]
  · rw [hs, hl, List.filter_append, List.filter_append, List.filter_cons_of_neg (by simp [h])]

theorem filter_spaceHeadingMarks {p : Char → Bool} (hspace : p ' ' = false) (hbreak : p '\n' = false)
    (content : Text) : (spaceHeadingMarks content).filter p = content.filter p := by
  have hmark (q : Text × LineKind) : (markLine q).filter p = q.1.filter p := by
    rw [markLine]
    split
    · exact filter_spaceMarks hspace q.1
    · rfl
  rw [← Text.unlines_lines (spaceHeadingMarks content), lines_spaceHeadingMarks,
    Text.filter_unlines hbreak, List.flatMap_map]
  simp only [hmark]
  rw [← List.flatMap_map, kinded_eq_kindedFrom, map_fst_kindedFrom, ← Text.filter_unlines hbreak,
    Text.unlines_lines]

end SourceBook.Markdown
