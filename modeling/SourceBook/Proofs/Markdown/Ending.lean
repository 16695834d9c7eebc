import SourceBook.Proofs.Markdown.WrapCode

namespace SourceBook.Markdown

theorem lines_break : Text.lines ['\n'] = [[], []] := rfl

section

variable {content : Text} {kept : List Text} {n : Nat}
  (hs : Text.lines content = kept ++ List.replicate n [])
  (hlast : ∀ line ∈ kept.getLast?, line ≠ [] ∧ Text.trimEnd line = line)

include hs hlast

theorem endWithBreak_eq : endWithBreak content = Text.unlines kept ++ ['\n'] := by
  rw [endWithBreak, ← Text.unlines_lines content, hs, Text.trimEnd_unlines hlast]

theorem lines_endWithBreak (hne : kept ≠ []) :
    Text.lines (endWithBreak content) = kept ++ [[]] := by
  have hmem : ∀ line ∈ kept, '\n' ∉ line := by
    intro line hl
    have hline : line ∈ Text.lines content := by
      rw [hs]
      exact List.mem_append_left _ hl
    exact Text.not_mem_of_mem_lines hline
  rw [endWithBreak_eq hs hlast, Text.lines_append_break, Text.lines_unlines hmem hne, Text.lines_nil]

theorem kinded_endWithBreak (hne : kept ≠ []) :
    ∃ kind lower, kinded (Text.lines (endWithBreak content)) = kinded kept ++ [([], kind)] ∧
      kinded (Text.lines content) = kinded kept ++ lower := by
  rw [lines_endWithBreak hs hlast hne, hs]
  exact ⟨_, _, kindedFrom_append none kept [[]], kindedFrom_append none kept _⟩

theorem noGap_endWithBreak
    (hgap : ∀ above below, Text.lines content = above ++ [] :: [] :: below → above = [] ∨ below = [])
    {above below : List Text} (hl : Text.lines (endWithBreak content) = above ++ [] :: [] :: below) :
    above = [] ∨ below = [] := by
  by_cases hne : kept = []
  · subst hne
    rw [endWithBreak_eq hs hlast] at hl
    have hlen := congrArg List.length hl
    rw [List.length_append, List.length_cons, List.length_cons] at hlen
    change 2 = _ at hlen
    exact .inl (List.eq_nil_of_length_eq_zero (by omega))
  · by_contra hne'
    rw [not_or] at hne'
    obtain ⟨below, last, rfl⟩ := (List.eq_nil_or_concat below).resolve_left hne'.2
    have hsplit : kept ++ [[]] = (above ++ [] :: [] :: below) ++ [last] := by
      rw [← lines_endWithBreak hs hlast hne, hl]
      simp
    obtain ⟨rfl, -⟩ := List.append_inj' hsplit rfl
    rcases hgap above (below ++ List.replicate n []) (by rw [hs]; simp) with ha | hb
    · exact hne'.1 ha
    · rw [List.append_eq_nil_iff] at hb
      obtain ⟨rfl, -⟩ := hb
      exact (hlast [] (by simp)).1 rfl

theorem titled_endWithBreak (ht : Titled (Text.lines content)) :
    Titled (Text.lines (endWithBreak content)) := by
  obtain ⟨first, rest, hl, hf⟩ := ht
  rw [hs] at hl
  cases kept with
  | nil =>
      have hm : first ∈ List.replicate n [] := by
        rw [List.nil_append] at hl
        rw [hl]
        exact List.mem_cons_self
      rw [List.eq_of_mem_replicate hm] at hf
      exact absurd hf (by decide)
  | cons top kept =>
      rw [List.cons_append, List.cons.injEq] at hl
      refine ⟨top, kept ++ [[]], ?_, by rw [hl.1, hf]⟩
      rw [lines_endWithBreak hs hlast (by simp), List.cons_append]

end

theorem endWithBreak_eq_self {content body : Text} {c : Char} (h : content = body ++ [c, '\n'])
    (hc : Text.isBlank c = false) : endWithBreak content = content := by
  rw [h, endWithBreak, ← List.singleton_append, ← List.append_assoc, Text.trimEnd_concat,
    if_pos Text.isBlank_break, Text.trimEnd_concat, if_neg (by simp [hc])]

theorem exists_kept {content : Text} (h : Tidy (Text.lines content)) :
    ∃ kept n, Text.lines content = kept ++ List.replicate n [] ∧
      ∀ line ∈ kept.getLast?, line ≠ [] ∧ Text.trimEnd line = line := by
  obtain ⟨kept, n, hs, hlast⟩ := Text.exists_eq_append_replicate (Text.lines content)
  refine ⟨kept, n, hs, fun line hl => ⟨hlast line hl, h.trimmed line ?_⟩⟩
  rw [hs]
  exact List.mem_append_left _ (List.mem_of_getLast? hl)

theorem mem_kinded_endWithBreak {content : Text} (h : Tidy (Text.lines content))
    {p : Text × LineKind} (hp : p ∈ kinded (Text.lines (endWithBreak content))) :
    p.1 = [] ∨ p ∈ kinded (Text.lines content) := by
  obtain ⟨kept, n, hs, hlast⟩ := exists_kept h
  by_cases hne : kept = []
  · subst hne
    rw [endWithBreak_eq hs hlast] at hp
    have hm : p.1 ∈ Text.lines ['\n'] := mem_of_mem_kinded hp
    exact .inl (by simpa [lines_break] using hm)
  · obtain ⟨kind, lower, hk, hk'⟩ := kinded_endWithBreak hs hlast hne
    rw [hk, List.mem_append, List.mem_singleton] at hp
    rcases hp with hp | rfl
    · exact .inr (hk' ▸ List.mem_append_left _ hp)
    · exact .inl rfl

theorem tidy_endWithBreak {content : Text} (h : Tidy (Text.lines content)) :
    Tidy (Text.lines (endWithBreak content)) where
  clean := fun ⟨line, kind⟩ hp => by
    rcases mem_kinded_endWithBreak h hp with rfl | hp
    · exact Clean.nil kind
    · exact h.clean _ hp
  apart := by
    obtain ⟨kept, n, hs, hlast⟩ := exists_kept h
    by_cases hne : kept = []
    · subst hne
      rw [endWithBreak_eq hs hlast]
      exact (List.IsChain.singleton _).cons_cons (apart_nil_left _ _)
    · obtain ⟨kind, lower, hk, hk'⟩ := kinded_endWithBreak hs hlast hne
      have hupper : (kinded kept ++ lower).IsChain Apart := hk' ▸ h.apart
      rw [hk]
      refine hupper.left_of_append.append (.singleton _) fun p _ q hq => ?_
      rw [List.head?_singleton, Option.mem_some_iff] at hq
      exact hq ▸ apart_nil_right _ _
  noGap := fun _ _ hl => by
    obtain ⟨kept, n, hs, hlast⟩ := exists_kept h
    exact noGap_endWithBreak hs hlast h.noGap hl

/-- What the last pass writes is one line feed, or ends in one behind a visible character. -/
theorem framed_endWithBreak (content : Text) :
    endWithBreak content = ['\n'] ∨
      ∃ body c, endWithBreak content = body ++ [c, '\n'] ∧ Text.isBlank c = false := by
  rw [endWithBreak]
  have ht := Text.trimEnd_eq_self_iff.1 (Text.trimEnd_trimEnd content)
  cases hs : Text.trimEnd content using List.reverseRecOn with
  | nil => exact .inl rfl
  | append_singleton body c =>
      rw [hs] at ht
      exact .inr ⟨body, c, by simp, ht c (by simp)⟩

theorem not_mem_endWithBreak {content : Text} {c : Char} (hc : c ≠ '\n') (h : c ∉ content) :
    c ∉ endWithBreak content := by
  rw [endWithBreak, List.mem_append, List.mem_singleton, not_or]
  exact ⟨fun hm => h ((Text.trimEnd_isPrefix content).subset hm), hc⟩

theorem filter_endWithBreak_sublist {p : Char → Bool} (h : p '\n' = false) (content : Text) :
    ((endWithBreak content).filter p).Sublist (content.filter p) := by
  rw [endWithBreak, List.filter_append, List.filter_singleton, h]
  simpa using (Text.trimEnd_isPrefix content).sublist.filter p

end SourceBook.Markdown
