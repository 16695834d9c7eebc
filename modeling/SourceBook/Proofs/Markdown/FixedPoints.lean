import SourceBook.Proofs.Markdown.Ending

namespace SourceBook.Markdown

def beforeWrapping (content : Text) : Text :=
  ensureTitle defaultTitle (collapseBlankLines (spaceHeadings (spaceHeadingMarks (cleanBlanks content))))

theorem normalize_eq (content : Text) :
    normalize content = endWithBreak (wrapCode (beforeWrapping content)) := by
  rw [normalize, runPasses_normalizePasses, beforeWrapping]

theorem tidy_beforeWrapping (content : Text) :
    Tidy (Text.lines (beforeWrapping content)) ∧
      (beforeWrapping content = [] ∨ Titled (Text.lines (beforeWrapping content))) :=
  tidy_ensureTitle (tidy_collapseBlankLines (clean_spaceHeadings (clean_spaceHeadingMarks content))
    (apart_spaceHeadings _))

theorem wrapCode_eq_self {content : Text}
    (h : ∀ line, (line, .code) ∈ kinded (Text.lines content) → wrapThreshold < Text.width line →
      wrapLine wrapWidth line = [line]) : wrapCode content = content := by
  have hs : ∀ p ∈ kinded (Text.lines content), segments p = [p.1] := by
    rintro ⟨line, kind⟩ hp
    rw [segments]
    split
    · next ho =>
        obtain ⟨rfl, hw⟩ := isOverlong_iff.1 ho
        exact h line hp hw
    · rfl
  rw [← Text.unlines_lines (wrapCode content), lines_wrapCode, List.flatMap_def,
    List.map_congr_left hs, ← List.flatMap_def, ← List.map_eq_flatMap, kinded_eq_kindedFrom,
    map_fst_kindedFrom, Text.unlines_lines]

theorem titled_wrapCode {content : Text} (h : Titled (Text.lines content)) :
    Titled (Text.lines (wrapCode content)) := by
  obtain ⟨first, rest, hs, hf⟩ := h
  rw [lines_wrapCode, hs, kinded_eq_kindedFrom, kindedFrom_cons, kindAt_of_isTitle hf,
    List.flatMap_cons, segments_of_not_code (p := (first, .text)) nofun]
  exact ⟨first, _, rfl, hf⟩

theorem titled_normalize (content : Text) :
    normalize content = ['\n'] ∨ Titled (Text.lines (normalize content)) := by
  obtain ⟨htidy, hb | ht⟩ := tidy_beforeWrapping content
  · rw [normalize_eq, hb]
    exact .inl rfl
  · obtain ⟨kept, n, hs, hlast⟩ := exists_kept_wrapCode htidy.trimmed
    rw [normalize_eq]
    exact .inr (titled_endWithBreak hs hlast (titled_wrapCode ht))

/-- Every pass leaves a canonical document as it is. -/
theorem normalize_of_canonical {content : Text} (h : Canonical content) : normalize content = content := by
  rcases h.framed with rfl | ⟨htitled, body, c, hbody, hc⟩
  · rfl
  · rw [normalize_eq, beforeWrapping, cleanBlanks_eq_self h.noReturn h.noTab h.trimmed,
      spaceHeadingMarks_eq_self h.marked, spaceHeadings_eq_self h.apart,
      collapseBlankLines_eq_self h.noGap, ensureTitle_of_titled htitled, wrapCode_eq_self h.narrow,
      endWithBreak_eq_self hbody hc]

section

variable {content : Text} (h : NeatlyWrapped (Text.lines (beforeWrapping content)))

include h

theorem tidy_normalize : Tidy (Text.lines (normalize content)) := by
  rw [normalize_eq]
  exact tidy_endWithBreak (tidy_wrapCode (tidy_beforeWrapping content).1 h)

theorem wrapLine_of_mem_normalize {line : Text}
    (hline : (line, .code) ∈ kinded (Text.lines (normalize content)))
    (hw : wrapThreshold < Text.width line) : wrapLine wrapWidth line = [line] := by
  have htidy := (tidy_beforeWrapping content).1
  rw [normalize_eq] at hline
  rcases mem_kinded_endWithBreak (tidy_wrapCode htidy h) hline with rfl | hm
  · exact absurd hw (by decide)
  · rw [kinded_wrapCode htidy.clean h, List.mem_flatMap] at hm
    obtain ⟨⟨source, kind⟩, -, hm⟩ := hm
    obtain ⟨segment, hs, heq⟩ := List.mem_map.1 hm
    obtain ⟨rfl, rfl⟩ := Prod.mk.inj heq
    rw [segments] at hs
    split at hs
    · exact wrapLine_of_mem_wrapLine hs
    · next ho =>
        rw [List.mem_singleton] at hs
        rw [isOverlong_iff] at ho
        exact absurd ⟨rfl, hs ▸ hw⟩ ho

theorem canonical_normalize : Canonical (normalize content) := by
  refine (tidy_normalize h).canonical ?_ fun line => wrapLine_of_mem_normalize h
  rcases titled_normalize content with hb | htitled
  · exact .inl hb
  · rcases framed_endWithBreak (wrapCode (beforeWrapping content)) with hb | hframed
    · exact .inl (by rw [normalize_eq, hb])
    · rw [← normalize_eq] at hframed
      exact .inr ⟨htitled, hframed⟩

end

def isOddBlank (c : Char) : Bool := Text.isBlank c && c != ' ' && c != '\n'

theorem filter_ensureTitle {content : Text}
    (h : ∀ line ∈ Text.lines content, Text.trimEnd line = line) :
    (ensureTitle defaultTitle content).filter isOddBlank = content.filter isOddBlank := by
  obtain ⟨n, first, rest, hs, hd, -⟩ := exists_dropTopBlank (Text.lines_ne_nil content) h
  have hbody : (Text.unlines (first :: rest)).filter isOddBlank = content.filter isOddBlank := by
    rw [← Text.unlines_lines content, hs, Text.filter_unlines rfl, Text.filter_unlines rfl,
      List.flatMap_append]
    simp
  have htitle : ("# ".toList ++ defaultTitle ++ "\n\n".toList).filter isOddBlank = [] := by decide
  rcases ensureTitle_eq_or defaultTitle content with ht | ht
  · rw [ht, hd, hbody]
  · rw [ht, hd, List.filter_append, htitle, hbody, List.nil_append]

theorem filter_beforeWrapping (content : Text) :
    (beforeWrapping content).filter isOddBlank = (cleanBlanks content).filter isOddBlank := by
  have htidy := tidy_collapseBlankLines (clean_spaceHeadings (clean_spaceHeadingMarks content))
    (apart_spaceHeadings _)
  rw [beforeWrapping, filter_ensureTitle htidy.trimmed, filter_collapseBlankLines rfl,
    filter_spaceHeadings rfl, filter_spaceHeadingMarks rfl rfl]

/-- A run of the passes drops odd blanks only where it cleans up the ends of the lines. -/
theorem filter_normalize_sublist (content : Text) :
    ((normalize content).filter isOddBlank).Sublist ((cleanBlanks content).filter isOddBlank) := by
  rw [normalize_eq, ← filter_beforeWrapping, ← filter_wrapCode rfl rfl (beforeWrapping content)]
  exact filter_endWithBreak_sublist rfl _

theorem not_mem_normalize {content : Text} {c : Char} (hspace : c ≠ ' ') (hbreak : c ≠ '\n')
    (h : c ∉ beforeWrapping content) : c ∉ normalize content := by
  rw [normalize_eq]
  refine not_mem_endWithBreak hbreak fun hm => h ?_
  obtain ⟨line, hl, hc⟩ := Text.exists_mem_lines hm hbreak
  rw [lines_wrapCode, List.mem_flatMap] at hl
  obtain ⟨p, hp, hs⟩ := hl
  exact Text.mem_of_mem_lines (mem_of_mem_kinded hp) ((mem_of_mem_segments hs hc).resolve_left hspace)

theorem exists_segments_of_mem_lines {content line : Text} (h : line ∈ Text.lines (normalize content))
    (hne : line ≠ []) : ∃ p ∈ kinded (Text.lines (beforeWrapping content)), line ∈ segments p := by
  obtain ⟨kept, n, hs, hlast⟩ := exists_kept_wrapCode (tidy_beforeWrapping content).1.trimmed
  have hkept : line ∈ kept := by
    rw [normalize_eq] at h
    by_cases hk : kept = []
    · rw [endWithBreak_eq hs hlast, hk] at h
      change line ∈ [[], []] at h
      exact absurd (by simpa using h) hne
    · rw [lines_endWithBreak hs hlast hk, List.mem_append, List.mem_singleton] at h
      exact h.resolve_right hne
  have hm : line ∈ Text.lines (wrapCode (beforeWrapping content)) := by
    rw [hs]
    exact List.mem_append_left _ hkept
  rwa [lines_wrapCode, List.mem_flatMap] at hm

theorem getLast?_of_mem_lines_normalize {content line : Text}
    (h : line ∈ Text.lines (normalize content)) : line.getLast? ≠ some ' ' := by
  by_cases hne : line = []
  · simp [hne]
  · obtain ⟨p, hp, hs⟩ := exists_segments_of_mem_lines h hne
    have hp' : p.1 ≠ [] := by
      intro hnil
      obtain ⟨source, kind⟩ := p
      obtain rfl : source = [] := hnil
      rw [segments_nil, List.mem_singleton] at hs
      exact hne hs
    obtain ⟨c, hc, hspace⟩ := getLast?_of_mem_segments
      ((tidy_beforeWrapping content).1.clean p hp).trimmed hp' hs
    rw [hc, ne_eq, Option.some_inj]
    exact hspace

theorem length_filter_trimEnd {p : Char → Bool} {pieces : List Text}
    (h : (pieces.flatMap (List.filter p)).length ≤
      (pieces.flatMap fun line => (Text.trimEnd line).filter p).length) :
    ∀ line ∈ pieces, (line.filter p).length ≤ ((Text.trimEnd line).filter p).length := by
  have hle (line : Text) : ((Text.trimEnd line).filter p).length ≤ (line.filter p).length :=
    ((Text.trimEnd_isPrefix line).sublist.filter p).length_le
  have hsum (pieces : List Text) : (pieces.flatMap fun line => (Text.trimEnd line).filter p).length ≤
      (pieces.flatMap (List.filter p)).length := by
    induction pieces with
    | nil => simp
    | cons line pieces ih => simpa using Nat.add_le_add (hle line) ih
  induction pieces with
  | nil => simp
  | cons line pieces ih =>
      rw [List.flatMap_cons, List.flatMap_cons, List.length_append, List.length_append] at h
      have hline := hle line
      have hrest := hsum pieces
      intro l hl
      rw [List.mem_cons] at hl
      rcases hl with rfl | hl
      · omega
      · exact ih (by omega) l hl

/-- A document that one run leaves as it is has no blanks at the ends of its lines: those that the
first pass drops would be missing afterwards. -/
theorem trimmed_of_normalize_eq_self {content : Text} (h : normalize content = content) :
    ∀ line ∈ Text.lines content, Text.trimEnd line = line := by
  have htidy := (tidy_beforeWrapping content).1
  have hreturn : '\r' ∉ content := h ▸ not_mem_normalize (by decide) (by decide) htidy.noReturn
  have htab : '\t' ∉ content := h ▸ not_mem_normalize (by decide) (by decide) htidy.noTab
  have hclean : (Text.lines (cleanBlanks content)) = (Text.lines content).map Text.trimEnd := by
    rw [lines_cleanBlanks, Text.breakLines_eq_lines hreturn]
    refine List.map_congr_left fun line hl => ?_
    exact cleanLine_of_tab_not_mem fun hc => htab (Text.mem_of_mem_lines hl hc)
  have hodd := (filter_normalize_sublist content).length_le
  rw [h, ← Text.unlines_lines (cleanBlanks content), hclean, Text.filter_unlines rfl,
    List.flatMap_map, ← Text.unlines_lines content, Text.filter_unlines rfl, Text.unlines_lines] at hodd
  intro line hl
  have hline := length_filter_trimEnd hodd line hl
  obtain ⟨tail, ht, hblank⟩ := Text.exists_eq_trimEnd_append line
  cases tail using List.reverseRecOn with
  | nil => rw [← List.append_nil (Text.trimEnd line), ← ht]
  | append_singleton tail c =>
      have hbreak : c ≠ '\n' := by
        rintro rfl
        exact Text.not_mem_of_mem_lines hl (ht ▸ by simp)
      have hspace : c ≠ ' ' := by
        rintro rfl
        exact getLast?_of_mem_lines_normalize (h.symm ▸ hl) (ht ▸ by simp)
      have hc : isOddBlank c = true := by
        rw [isOddBlank, hblank c (by simp)]
        simp [hbreak, hspace]
      have hkeep : [c].filter isOddBlank = [c] := List.filter_cons_of_pos hc
      rw [congrArg (List.filter isOddBlank) ht, List.filter_append, List.filter_append, hkeep,
        List.length_append, List.length_append, List.length_singleton] at hline
      omega

theorem neatlyWrapped_of_trimmed {content : Text}
    (h : ∀ line ∈ Text.lines (normalize content), Text.trimEnd line = line) :
    NeatlyWrapped (Text.lines (beforeWrapping content)) := by
  intro line hp hw segment hs
  have hm : segment ∈ Text.lines (wrapCode (beforeWrapping content)) := by
    rw [lines_wrapCode, List.mem_flatMap]
    exact ⟨_, hp, by rwa [segments, if_pos (isOverlong_iff.2 ⟨rfl, hw⟩)]⟩
  obtain ⟨kept, n, hk, hlast⟩ := exists_kept_wrapCode (tidy_beforeWrapping content).1.trimmed
  rw [hk, List.mem_append] at hm
  rcases hm with hm | hm
  · refine h segment ?_
    rw [normalize_eq, lines_endWithBreak hk hlast (List.ne_nil_of_mem hm)]
    exact List.mem_append_left _ hm
  · rw [List.eq_of_mem_replicate hm, Text.trimEnd_nil]

/-- The fixed points of normalization are the canonical documents. -/
theorem normalize_eq_self_iff (content : Text) : normalize content = content ↔ Canonical content := by
  constructor
  · intro h
    have hneat := neatlyWrapped_of_trimmed (h.symm ▸ trimmed_of_normalize_eq_self h)
    exact h ▸ canonical_normalize hneat
  · exact normalize_of_canonical

/-- One run reaches a fixed point exactly when no segment of a wrapped line ends in a blank. -/
theorem normalize_normalize_iff (content : Text) :
    normalize (normalize content) = normalize content ↔
      NeatlyWrapped (Text.lines (beforeWrapping content)) := by
  constructor
  · intro h
    exact neatlyWrapped_of_trimmed (trimmed_of_normalize_eq_self h)
  · intro h
    exact normalize_of_canonical (canonical_normalize h)

/-- A wide line of code in which the words are cut behind a no-break space. -/
def looseLine : Text := List.replicate 117 'a' ++ "\u00a0 bbbb".toList

theorem normalize_normalize_looseLine_ne :
    normalize (normalize ("```\n".toList ++ looseLine)) ≠ normalize ("```\n".toList ++ looseLine) := by
  decide +kernel

/-- No segment ends in a blank when the document holds no other blanks than spaces, tabs and the two
characters of line breaks. -/
theorem neatlyWrapped_of_plain {content : Text}
    (h : ∀ c ∈ content, Text.isBlank c = true → c = ' ' ∨ c = '\t' ∨ c = '\n' ∨ c = '\r') :
    NeatlyWrapped (Text.lines (beforeWrapping content)) := by
  intro line hp hw segment hs
  have htidy := (tidy_beforeWrapping content).1
  have hne : line ≠ [] := by
    rintro rfl
    exact absurd hw (by decide)
  obtain ⟨c, hc, hspace⟩ :=
    getLast?_of_mem_wrapLine (words_ne_nil_of_trimmed (htidy.clean _ hp).trimmed hne) hs
  have hline : c ∈ line := (mem_of_mem_wrapLine hs (List.mem_of_getLast? hc)).resolve_left hspace
  have hbreak : c ≠ '\n' := by
    rintro rfl
    exact Text.not_mem_of_mem_lines (mem_of_mem_kinded hp) hline
  have hbefore : c ∈ beforeWrapping content := Text.mem_of_mem_lines (mem_of_mem_kinded hp) hline
  rw [Text.trimEnd_eq_self_iff, hc]
  intro d hd
  obtain rfl : c = d := Option.some.inj hd
  by_contra hb
  rw [Bool.not_eq_false] at hb
  have hodd : c ∈ (beforeWrapping content).filter isOddBlank := by
    rw [List.mem_filter, isOddBlank, hb]
    exact ⟨hbefore, by simp [hspace, hbreak]⟩
  rw [filter_beforeWrapping] at hodd
  have hcontent := mem_cleanBlanks hspace hbreak (List.mem_of_mem_filter hodd)
  rcases h c hcontent hb with rfl | rfl | rfl | rfl
  · exact hspace rfl
  · exact htidy.noTab hbefore
  · exact hbreak rfl
  · exact htidy.noReturn hbefore

theorem normalize_normalize_of_plain {content : Text}
    (h : ∀ c ∈ content, Text.isBlank c = true → c = ' ' ∨ c = '\t' ∨ c = '\n' ∨ c = '\r') :
    normalize (normalize content) = normalize content :=
  normalize_of_canonical (canonical_normalize (neatlyWrapped_of_plain h))

end SourceBook.Markdown
