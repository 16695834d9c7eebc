import SourceBook.Markdown.Distinct
import SourceBook.Proofs.Document.Contents
import SourceBook.Proofs.Document.Outline

namespace SourceBook.Markdown

open Document (headingOf? map_headings isDigit_of_mem_toString)
open Text (isBlank_of_isDigit)

def suffix (n : Nat) : Text := " (".toList ++ (toString n).toList ++ [')']

/-- How often the text of a heading occurs among the headings above it. -/
def repeats (all : List Heading) (h : Heading) : Nat :=
  ((all.filter (·.line < h.line)).map Heading.text).count h.text

def retitled (all : List Heading) (h : Heading) : Heading :=
  { h with text :=
      if repeats all h = 0 then h.text else Text.trim (h.text ++ suffix (repeats all h)) }

def headingTexts (ps : List (Text × LineKind)) : List Text := (ps.filterMap headingOf?).map Prod.snd

def renumbered (above : List Text) (p : Text × LineKind) : Text :=
  match headingOf? p with
  | some (level, text) => if above.count text = 0 then p.1 else numbered level text (above.count text)
  | none => p.1

def headingAt? (ps : List (Text × LineKind)) (i : Nat) : Option Heading :=
  ps[i]?.bind fun p => (headingOf? p).map fun (level, text) => ⟨level, text, i⟩

theorem filterMap_zipIdx {α β : Type} (g : α × Nat → Option β) (l : List α) :
    l.zipIdx.filterMap g = (List.range l.length).filterMap fun i => l[i]?.bind fun a => g (a, i) := by
  induction l using List.reverseRecOn with
  | nil => rfl
  | append_singleton l a ih =>
      rw [List.zipIdx_append, List.filterMap_append, ih, List.length_append, List.length_singleton,
        List.range_succ, List.filterMap_append]
      have hbelow : ∀ i ∈ List.range l.length, (l[i]?.bind fun a => g (a, i)) =
          ((l ++ [a])[i]?.bind fun a => g (a, i)) := by
        intro i hi
        rw [List.getElem?_append_left (List.mem_range.1 hi)]
      rw [List.filterMap_congr hbelow]
      simp [List.filterMap_cons]

theorem headings_eq (lines : List Text) :
    headings lines = (List.range lines.length).filterMap (headingAt? (kinded lines)) := by
  rw [headings, filterMap_zipIdx, length_kinded]
  refine List.filterMap_congr fun i _ => ?_
  rw [headingAt?]
  cases (kinded lines)[i]? with
  | none => rfl
  | some p => cases hk : p.2 <;> simp [headingOf?, parseHeading?, hk]

theorem line_of_headingAt? {ps : List (Text × LineKind)} {i : Nat} {h : Heading}
    (hat : headingAt? ps i = some h) :
    h.line = i ∧ ∃ p, ps[i]? = some p ∧ headingOf? p = some (h.level, h.text) := by
  obtain ⟨p, hp, hmap⟩ := Option.bind_eq_some_iff.1 hat
  obtain ⟨⟨level, text⟩, hof, rfl⟩ := Option.map_eq_some_iff.1 hmap
  exact ⟨rfl, p, hp, hof⟩

theorem mem_headings_iff {lines : List Text} {h : Heading} :
    h ∈ headings lines ↔
      ∃ p, (kinded lines)[h.line]? = some p ∧ headingOf? p = some (h.level, h.text) := by
  rw [headings_eq, List.mem_filterMap]
  constructor
  · rintro ⟨i, -, hat⟩
    obtain ⟨rfl, hp⟩ := line_of_headingAt? hat
    exact hp
  · rintro ⟨p, hp, hof⟩
    have hlt := (List.getElem?_eq_some_iff.1 hp).1
    rw [length_kinded] at hlt
    exact ⟨h.line, List.mem_range.2 hlt, by simp [headingAt?, hp, hof]⟩

/-- The headings come in the order of their lines. -/
theorem pairwise_headings (lines : List Text) :
    (headings lines).Pairwise fun a b => a.line < b.line := by
  rw [headings_eq, List.pairwise_filterMap]
  refine List.pairwise_lt_range.imp fun {i j} hij a ha b hb => ?_
  rw [(line_of_headingAt? ha).1, (line_of_headingAt? hb).1]
  exact hij

theorem kindedFrom_take (fence : Option Nat) (lines : List Text) (i : Nat) :
    kindedFrom fence (lines.take i) = (kindedFrom fence lines).take i := by
  induction lines generalizing fence i with
  | nil => simp
  | cons line lines ih =>
      cases i with
      | zero => rfl
      | succ i => simp [ih]

/-- The headings above a line are those of the lines above it. -/
theorem headings_take (lines : List Text) (i : Nat) :
    headings (lines.take i) = (headings lines).filter (·.line < i) := by
  have hrange : List.range lines.length = List.range (min i lines.length) ++
      (List.range (lines.length - min i lines.length)).map (min i lines.length + ·) := by
    rw [← List.range_add]
    congr 1
    omega
  have habove : ∀ j ∈ List.range (min i lines.length), headingAt? ((kinded lines).take i) j =
      (headingAt? (kinded lines) j).filter (·.line < i) := by
    intro j hj
    have hlt : j < i := (List.mem_range.1 hj).trans_le (min_le_left _ _)
    rw [headingAt?, List.getElem?_take_of_lt hlt, ← headingAt?]
    cases hat : headingAt? (kinded lines) j with
    | none => rfl
    | some h =>
        have hline : h.line < i := (line_of_headingAt? hat).1 ▸ hlt
        rw [Option.filter_some_pos (by simpa using hline)]
  have hbelow : ∀ j ∈ (List.range (lines.length - min i lines.length)).map (min i lines.length + ·),
      (headingAt? (kinded lines) j).filter (·.line < i) = none := by
    intro j hj
    obtain ⟨k, hk, rfl⟩ := List.mem_map.1 hj
    rw [List.mem_range] at hk
    rw [Option.filter_eq_none_iff]
    intro h hat hlt
    rw [(line_of_headingAt? hat).1, decide_eq_true_eq] at hlt
    omega
  rw [headings_eq, headings_eq, kinded_eq_kindedFrom, kindedFrom_take, ← kinded_eq_kindedFrom,
    List.length_take, List.filter_filterMap, hrange, List.filterMap_append,
    List.filterMap_eq_nil_iff.2 hbelow, List.append_nil, List.filterMap_congr habove]

theorem map_text_headings (lines : List Text) :
    (headings lines).map Heading.text = headingTexts (kinded lines) := by
  rw [headingTexts, ← map_headings, List.map_map]
  rfl

theorem repeats_headings (lines : List Text) (h : Heading) :
    repeats (headings lines) h = (headingTexts ((kinded lines).take h.line)).count h.text := by
  rw [repeats, ← headings_take, map_text_headings, kinded_eq_kindedFrom, kindedFrom_take,
    kinded_eq_kindedFrom]

theorem headingTexts_cons (p : Text × LineKind) (ps : List (Text × LineKind)) :
    headingTexts (p :: ps) = headingTexts [p] ++ headingTexts ps := by
  rw [headingTexts, headingTexts, headingTexts, ← List.map_append, ← List.filterMap_append,
    List.singleton_append]

theorem renumbered_of_none {p : Text × LineKind} (h : headingOf? p = none) (above : List Text) :
    renumbered above p = p.1 := by
  rw [renumbered, h]

theorem renumbered_of_some {p : Text × LineKind} {level : Nat} {text : Text}
    (h : headingOf? p = some (level, text)) (above : List Text) :
    renumbered above p =
      if above.count text = 0 then p.1 else numbered level text (above.count text) := by
  rw [renumbered, h]

theorem renumbered_perm {a b : List Text} (h : a.Perm b) (p : Text × LineKind) :
    renumbered a p = renumbered b p := by
  simp only [renumbered, h.count_eq]

theorem distinguishFrom_cons (earlier : List Text) (p : Text × LineKind)
    (ps : List (Text × LineKind)) :
    distinguishFrom earlier (p :: ps) =
      renumbered earlier p :: distinguishFrom (headingTexts [p] ++ earlier) ps := by
  obtain ⟨line, kind⟩ := p
  rw [distinguishFrom, renumbered, headingTexts, List.filterMap_cons, headingOf?]
  split
  · next h => rw [h]; rfl
  · next level text h => rw [h]; rfl

theorem numbered_eq (level : Nat) (text : Text) (n : Nat) :
    numbered level text n = List.replicate level '#' ++ ' ' :: (text ++ suffix n) := by
  simp [numbered, suffix]

theorem exists_of_headingParts? {line text : Text} {level : Nat}
    (h : headingParts? line = some (level, text)) :
    level ≠ 0 ∧ isHeading line = true ∧ Text.OneLine text ∧
      ∃ rest, line = List.replicate level '#' ++ rest ∧ text = Text.trim rest := by
  obtain ⟨n, rest, rfl, hrest⟩ := exists_marks line
  rw [headingParts?, marks_replicate_append hrest] at h
  dsimp only at h
  split at h
  · next hh =>
      obtain ⟨hheading, hline⟩ := hh
      obtain ⟨rfl, rfl⟩ : n = level ∧ Text.trimEnd (Text.trimStart rest) = text := by simpa using h
      rw [Bool.not_eq_true', List.any_eq_false] at hline
      refine ⟨?_, hheading, fun c hc => ?_, rest, rfl, rfl⟩
      · rw [isHeading_replicate_append hrest] at hheading
        simpa using (Bool.and_eq_true_iff.1 hheading).1
      · simpa using hline c ((Text.trimEnd_isPrefix _).subset hc)
  · cases h

theorem exists_of_headingOf? {p : Text × LineKind} {level : Nat} {text : Text}
    (h : headingOf? p = some (level, text)) : p.2 = .text ∧ headingParts? p.1 = some (level, text) := by
  rw [headingOf?] at h
  split at h
  · next hk => exact ⟨hk, h⟩
  · cases h

theorem oneLine_suffix (n : Nat) : Text.OneLine (suffix n) := by
  have hdigits : Text.OneLine (toString n).toList :=
    Text.oneLine_of_visible fun c hc => isBlank_of_isDigit (isDigit_of_mem_toString hc)
  exact ((by decide : Text.OneLine " (".toList).append hdigits).append (by decide)

theorem head?_numbered {level : Nat} (h : level ≠ 0) (text : Text) (n : Nat) :
    (numbered level text n).head? = some '#' := by
  obtain ⟨m, rfl⟩ := Nat.exists_eq_succ_of_ne_zero h
  rfl

theorem headingParts?_numbered {level : Nat} {text : Text} (h : level ≠ 0) (htext : Text.OneLine text)
    (n : Nat) : headingParts? (numbered level text n) = some (level, Text.trim (text ++ suffix n)) := by
  rw [numbered_eq]
  exact Document.Section.headingParts?_heading (s := ⟨level, text ++ suffix n, .nothing⟩) h
    (htext.append (oneLine_suffix n))

/-- A rewritten line still is a heading of its level, and of its text with the number behind it. -/
theorem headingOf?_renumbered (above : List Text) (p : Text × LineKind) :
    headingOf? (renumbered above p, p.2) = (headingOf? p).map fun (level, text) =>
      (level, if above.count text = 0 then text else Text.trim (text ++ suffix (above.count text))) := by
  cases hof : headingOf? p with
  | none => rwa [renumbered_of_none hof]
  | some parts =>
      obtain ⟨level, text⟩ := parts
      obtain ⟨hk, hparts⟩ := exists_of_headingOf? hof
      obtain ⟨hlevel, -, htext, -⟩ := exists_of_headingParts? hparts
      rw [renumbered_of_some hof, headingOf?, if_pos hk, Option.map_some]
      dsimp only
      split
      · exact hparts
      · exact headingParts?_numbered hlevel htext _

/-- A line is left as it is, or it is a heading and gets a number. -/
theorem renumbered_cases (above : List Text) (p : Text × LineKind) :
    renumbered above p = p.1 ∨ ∃ level text n, p.2 = .text ∧ headingParts? p.1 = some (level, text) ∧
      renumbered above p = numbered level text n := by
  cases hof : headingOf? p with
  | none => exact .inl (renumbered_of_none hof above)
  | some parts =>
      obtain ⟨level, text⟩ := parts
      obtain ⟨hk, hparts⟩ := exists_of_headingOf? hof
      rw [renumbered_of_some hof]
      split
      · exact .inl rfl
      · exact .inr ⟨level, text, _, hk, hparts, rfl⟩

theorem kindAt_renumbered (above : List Text) (fence : Option Nat) (line : Text) :
    kindAt fence (renumbered above (line, (kindAt fence line).1)) = kindAt fence line := by
  rcases renumbered_cases above (line, (kindAt fence line).1) with hs | ⟨level, text, n, hk, hparts, hs⟩
  · rw [hs]
  · obtain ⟨rfl, hopen⟩ := kindAt_fst_eq_text_iff.1 hk
    have hhead := head?_numbered (exists_of_headingParts? hparts).1 text n
    rw [hs, kindAt_of_opens? hopen]
    exact kindAt_of_head? (by rw [hhead]; decide) none

theorem mem_renumbered {c : Char} {above : List Text} {p : Text × LineKind}
    (h : c ∈ renumbered above p) : c = ' ' ∨ Text.isBlank c = false ∨ c ∈ p.1 := by
  rcases renumbered_cases above p with hs | ⟨level, text, n, -, hparts, hs⟩
  · exact .inr (.inr (hs ▸ h))
  · obtain ⟨-, -, -, rest, hline, rfl⟩ := exists_of_headingParts? hparts
    rw [hs, numbered_eq, suffix] at h
    simp only [List.mem_append, List.mem_cons] at h
    rcases h with h | h | h | (h | h) | h
    · have hmark : c = '#' := List.eq_of_mem_replicate h
      exact .inr (.inl (by rw [hmark]; rfl))
    · exact .inl h
    · refine .inr (.inr ?_)
      rw [hline]
      exact List.mem_append_right _
        ((List.dropWhile_suffix _).subset ((Text.trimEnd_isPrefix _).subset h))
    · have hmark : c = ' ' ∨ c = '(' := by simpa using h
      exact hmark.imp_right fun hc => .inl (by rw [hc]; rfl)
    · exact .inr (.inl (isBlank_of_isDigit (isDigit_of_mem_toString h)))
    · have hmark : c = ')' := by simpa using h
      exact .inr (.inl (by rw [hmark]; rfl))

theorem kindedFrom_distinguishFrom (earlier : List Text) (fence : Option Nat) (lines : List Text) :
    kindedFrom fence (distinguishFrom earlier (kindedFrom fence lines)) =
      (kindedFrom fence lines).mapIdx fun i p =>
        (renumbered (headingTexts ((kindedFrom fence lines).take i) ++ earlier) p, p.2) := by
  induction lines generalizing earlier fence with
  | nil => rfl
  | cons line lines ih =>
      rw [kindedFrom_cons, distinguishFrom_cons, kindedFrom_cons, kindAt_renumbered, ih, List.mapIdx_cons]
      congr 2
      funext i p
      rw [List.take_succ_cons, headingTexts_cons _ (List.take _ _), List.append_assoc,
        renumbered_perm (List.perm_append_comm_assoc ..)]

section

variable (content : Text)

theorem lines_distinguishHeadings :
    Text.lines (distinguishHeadings content) = distinguishFrom [] (kinded (Text.lines content)) := by
  have hkinded := kindedFrom_distinguishFrom [] none (Text.lines content)
  refine Text.lines_unlines (fun line hline => ?_) ?_
  · obtain ⟨kind, hp⟩ := exists_kind_of_mem_lines hline
    rw [kinded_eq_kindedFrom, kinded_eq_kindedFrom, hkinded] at hp
    obtain ⟨i, hi, heq⟩ := List.mem_mapIdx.1 hp
    obtain ⟨rfl, -⟩ := Prod.mk.inj heq
    intro hbreak
    rcases mem_renumbered hbreak with h | h | h
    · exact absurd h (by decide)
    · exact absurd h (by decide)
    · exact Text.not_mem_of_mem_lines (mem_of_mem_kinded (List.getElem_mem hi)) h
  · intro hnil
    rw [kinded_eq_kindedFrom] at hnil
    rw [hnil, kindedFrom_nil, eq_comm, List.mapIdx_eq_nil_iff] at hkinded
    exact kindedFrom_ne_nil (Text.lines_ne_nil content) none hkinded

/-- The lines with their kinds, each rewritten as the texts of the headings above it ask for. -/
theorem kinded_distinguishHeadings :
    kinded (Text.lines (distinguishHeadings content)) =
      (kinded (Text.lines content)).mapIdx fun i p =>
        (renumbered (headingTexts ((kinded (Text.lines content)).take i)) p, p.2) := by
  rw [lines_distinguishHeadings, kinded_eq_kindedFrom, kinded_eq_kindedFrom, kindedFrom_distinguishFrom]
  simp only [List.append_nil]

/-- What rewriting changes about no line is the same for the whole document. -/
theorem map_kinded_distinguishHeadings {α : Type} {f : Text × LineKind → α}
    (h : ∀ above p, f (renumbered above p, p.2) = f p) :
    (kinded (Text.lines (distinguishHeadings content))).map f = (kinded (Text.lines content)).map f := by
  apply List.ext_getElem?
  intro i
  rw [kinded_distinguishHeadings, List.getElem?_map, List.getElem?_mapIdx, List.getElem?_map,
    Option.map_map]
  congr 1
  funext p
  exact h _ p

theorem kinds_distinguishHeadings :
    kinds (Text.lines (distinguishHeadings content)) = kinds (Text.lines content) := by
  have hkinds (lines : List Text) : (kinded lines).map Prod.snd = kinds lines :=
    List.map_snd_zip (length_kindsFrom none lines).le
  rw [← hkinds, ← hkinds]
  exact map_kinded_distinguishHeadings content fun _ _ => rfl

theorem length_lines_distinguishHeadings :
    (Text.lines (distinguishHeadings content)).length = (Text.lines content).length := by
  rw [← length_kinded, kinded_distinguishHeadings, List.length_mapIdx, length_kinded]

/-- The lines, each of them unchanged or the line of a repeated heading with its number. -/
theorem getElem?_lines_distinguishHeadings (i : Nat) :
    (Text.lines (distinguishHeadings content))[i]? = (Text.lines content)[i]? ∨
      ∃ h ∈ headings (Text.lines content), h.line = i ∧ 0 < repeats (headings (Text.lines content)) h ∧
        (Text.lines (distinguishHeadings content))[i]? =
          some (List.replicate h.level '#' ++
            ' ' :: (h.text ++ suffix (repeats (headings (Text.lines content)) h))) := by
  have hline (lines : List Text) : lines[i]? = (kinded lines)[i]?.map Prod.fst := by
    rw [← List.getElem?_map, map_fst_kinded]
  rw [hline, hline, kinded_distinguishHeadings, List.getElem?_mapIdx]
  cases hp : (kinded (Text.lines content))[i]? with
  | none => exact .inl rfl
  | some p =>
      dsimp only [Option.map_some]
      cases hof : headingOf? p with
      | none => exact .inl (by rw [renumbered_of_none hof])
      | some parts =>
          obtain ⟨level, text⟩ := parts
          have hmem : (⟨level, text, i⟩ : Heading) ∈ headings (Text.lines content) :=
            mem_headings_iff.2 ⟨p, hp, hof⟩
          have hcount := repeats_headings (Text.lines content) ⟨level, text, i⟩
          dsimp only at hcount
          rw [renumbered_of_some hof, ← hcount]
          split
          · exact .inl rfl
          · next hrepeats =>
              exact .inr ⟨_, hmem, rfl, Nat.pos_of_ne_zero hrepeats, by rw [numbered_eq]⟩

theorem headings_distinguishHeadings :
    headings (Text.lines (distinguishHeadings content)) =
      (headings (Text.lines content)).map (retitled (headings (Text.lines content))) := by
  rw [headings_eq, length_lines_distinguishHeadings, headings_eq (Text.lines content), List.map_filterMap]
  refine List.filterMap_congr fun i _ => ?_
  rw [headingAt?, headingAt?, kinded_distinguishHeadings, List.getElem?_mapIdx]
  cases hp : (kinded (Text.lines content))[i]? with
  | none => rfl
  | some p =>
      dsimp only [Option.map_some, Option.bind_some]
      rw [headingOf?_renumbered]
      cases hof : headingOf? p with
      | none => rfl
      | some parts =>
          obtain ⟨level, text⟩ := parts
          have hcount := repeats_headings (Text.lines content) ⟨level, text, i⟩
          rw [← headings_eq]
          simp [retitled, hcount]

/-- The lines of repeated headings are rewritten, and nothing else is: as many lines as before, of the same
kinds, and headings on the same lines, of the same levels. -/
theorem distinguishHeadings_frame :
    (Text.lines (distinguishHeadings content)).length = (Text.lines content).length ∧
      kinds (Text.lines (distinguishHeadings content)) = kinds (Text.lines content) ∧
      (∀ i, (Text.lines (distinguishHeadings content))[i]? = (Text.lines content)[i]? ∨
        ∃ h ∈ headings (Text.lines content), h.line = i ∧
          0 < repeats (headings (Text.lines content)) h ∧
          (Text.lines (distinguishHeadings content))[i]? =
            some (List.replicate h.level '#' ++
              ' ' :: (h.text ++ suffix (repeats (headings (Text.lines content)) h)))) ∧
      headings (Text.lines (distinguishHeadings content)) =
        (headings (Text.lines content)).map (retitled (headings (Text.lines content))) :=
  ⟨length_lines_distinguishHeadings content, kinds_distinguishHeadings content,
    getElem?_lines_distinguishHeadings content, headings_distinguishHeadings content⟩

end

end SourceBook.Markdown
