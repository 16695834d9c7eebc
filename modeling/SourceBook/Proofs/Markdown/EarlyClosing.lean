import SourceBook.Proofs.Markdown.FixedPoints

namespace SourceBook.Markdown

theorem closes_of_kindedFrom_eq {n : Nat} {lines : List Text}
    (h : kindedFrom (some n) lines = lines.map (·, .code)) : ∀ line ∈ lines, closes n line = false := by
  induction lines with
  | nil =>
      intro line hline
      cases hline
  | cons line lines ih =>
      rw [kindedFrom_cons, List.map_cons, List.cons.injEq] at h
      obtain ⟨hline, hrest⟩ := h
      obtain ⟨m, hm, hopen⟩ := kindAt_fst_eq_code_iff.1 (congrArg Prod.snd hline)
      obtain rfl := Option.some.inj hm
      rw [kindAt_of_closes hopen] at hrest
      exact List.forall_mem_cons.2 ⟨hopen, ih hrest⟩

def inherited (ps : List (Text × LineKind)) : List (Text × LineKind) :=
  ps.flatMap fun p => (segments p).map (·, p.2)

/-- Wrapping the line closes no fence that it leaves open itself. -/
def KeepsOpen (fence : Option Nat) (line : Text) : Prop :=
  ∀ n ∈ fence, closes n line = false → wrapThreshold < Text.width line →
    ∀ segment ∈ wrapLine wrapWidth line, closes n segment = false

section

variable (fence : Option Nat) (line : Text)

theorem segments_kindAt_cases :
    segments (line, (kindAt fence line).1) = [line] ∧ KeepsOpen fence line ∨
      ∃ n, fence = some n ∧ closes n line = false ∧ wrapThreshold < Text.width line ∧
        segments (line, (kindAt fence line).1) = wrapLine wrapWidth line := by
  cases ho : isOverlong line (kindAt fence line).1 with
  | true =>
      obtain ⟨hcode, hwide⟩ := (isOverlong_iff (p := (line, (kindAt fence line).1))).1 ho
      obtain ⟨n, hfence, hopen⟩ := kindAt_fst_eq_code_iff.1 hcode
      exact .inr ⟨n, hfence, hopen, hwide, if_pos ho⟩
  | false =>
      refine .inl ⟨if_neg (by rw [ho]; decide), ?_⟩
      intro n hfence hopen hwide
      have hcode : (kindAt fence line).1 = .code := kindAt_fst_eq_code_iff.2 ⟨n, hfence, hopen⟩
      have hover := (isOverlong_iff (p := (line, (kindAt fence line).1))).2 ⟨hcode, hwide⟩
      rw [ho] at hover
      cases hover

theorem kindedFrom_segments_kindAt_iff :
    kindedFrom fence (segments (line, (kindAt fence line).1)) =
        (segments (line, (kindAt fence line).1)).map (·, (kindAt fence line).1) ↔
      KeepsOpen fence line := by
  rcases segments_kindAt_cases fence line with ⟨hs, hkeeps⟩ | ⟨n, rfl, hopen, hwide, hs⟩
  · rw [hs]
    exact iff_of_true rfl hkeeps
  · rw [hs, kindAt_of_closes hopen]
    constructor
    · intro h m hm _ _
      obtain rfl := Option.some.inj hm
      exact closes_of_kindedFrom_eq h
    · intro hkeeps
      exact (kindedFrom_code (hkeeps n rfl hopen hwide)).1

theorem fenceAfter_segments_kindAt (h : KeepsOpen fence line) :
    fenceAfter fence (segments (line, (kindAt fence line).1)) = (kindAt fence line).2 := by
  rcases segments_kindAt_cases fence line with ⟨hs, -⟩ | ⟨n, rfl, hopen, hwide, hs⟩
  · rw [hs]
    rfl
  · rw [hs, kindAt_of_closes hopen]
    exact (kindedFrom_code (h n rfl hopen hwide)).2

end

theorem kindedFrom_segments_iff (fence : Option Nat) (lines : List Text) :
    kindedFrom fence ((kindedFrom fence lines).flatMap segments) = inherited (kindedFrom fence lines) ↔
      ∀ above line below, lines = above ++ line :: below → KeepsOpen (fenceAfter fence above) line := by
  induction lines generalizing fence with
  | nil =>
      refine iff_of_true rfl ?_
      intro above line below h
      simp at h
  | cons line lines ih =>
      have hlength : (kindedFrom fence (segments (line, (kindAt fence line).1))).length =
          ((segments (line, (kindAt fence line).1)).map (·, (kindAt fence line).1)).length := by
        rw [← List.length_map Prod.fst, map_fst_kindedFrom, List.length_map]
      rw [kindedFrom_cons, inherited, List.flatMap_cons, List.flatMap_cons, kindedFrom_append]
      constructor
      · intro h
        obtain ⟨hline, hrest⟩ := List.append_inj h hlength
        have hkeeps := (kindedFrom_segments_kindAt_iff fence line).1 hline
        rw [fenceAfter_segments_kindAt fence line hkeeps] at hrest
        intro above other below hs
        cases above with
        | nil =>
            obtain ⟨rfl, -⟩ := List.cons.inj hs
            exact hkeeps
        | cons first above =>
            obtain ⟨rfl, htail⟩ := List.cons.inj hs
            exact (ih _).1 hrest above other below htail
      · intro h
        have hkeeps := h [] line lines rfl
        have hrest := (ih (kindAt fence line).2).2 fun above other below hs =>
          h (line :: above) other below (by rw [hs]; rfl)
        rw [fenceAfter_segments_kindAt fence line hkeeps,
          (kindedFrom_segments_kindAt_iff fence line).2 hkeeps, hrest]
        rfl

/-- A segment that closes a fence ends in a blank other than a space, if its line closes none. -/
theorem getLast?_of_closes_of_mem_wrapLine {n width : Nat} {line segment : Text}
    (hopen : closes n line = false) (ht : Text.trimEnd line = line) (hbreak : '\n' ∉ line)
    (hm : segment ∈ wrapLine width line) (hcloses : closes n segment = true) :
    ∃ blank ∈ segment.getLast?, isOddBlank blank = true := by
  have hloose : ¬ ∀ c ∈ segment.getLast?, Text.isBlank c = false := by
    rw [← Text.trimEnd_eq_self_iff]
    intro hs
    rw [closes_of_mem_wrapLine hopen ht hm hs] at hcloses
    cases hcloses
  have hwords : words line ≠ [] := by
    apply words_ne_nil_of_trimmed ht
    rintro rfl
    rw [wrapLine_of_words_eq_nil rfl, List.mem_singleton] at hm
    rw [hm, closes_of_head? (by simp)] at hcloses
    cases hcloses
  obtain ⟨c, hc, hspace⟩ := getLast?_of_mem_wrapLine hwords hm
  have hblank : Text.isBlank c = true := by
    by_contra hvisible
    rw [Bool.not_eq_true] at hvisible
    apply hloose
    intro d hd
    rwa [Option.some.inj (hd.symm.trans hc)]
  have hline : c ∈ line := (mem_of_mem_wrapLine hm (List.mem_of_getLast? hc)).resolve_left hspace
  have hne : c ≠ '\n' := by
    rintro rfl
    exact hbreak hline
  exact ⟨c, hc, by simp [isOddBlank, hblank, hspace, hne]⟩

/-- Wrapping leaves each segment the kind of its line exactly if no segment closes the fence around it. One
that does ends in a blank other than a space. -/
theorem kinded_wrapCode_iff (content : Text) :
    (kinded (Text.lines (wrapCode (beforeWrapping content))) =
        inherited (kinded (Text.lines (beforeWrapping content))) ↔
      ∀ above line below, Text.lines (beforeWrapping content) = above ++ line :: below →
        KeepsOpen (fenceAfter none above) line) ∧
    ∀ line ∈ Text.lines (beforeWrapping content), ∀ n, closes n line = false →
      ∀ segment ∈ wrapLine wrapWidth line, closes n segment = true →
        ∃ blank ∈ segment.getLast?, isOddBlank blank = true := by
  constructor
  · rw [lines_wrapCode]
    exact kindedFrom_segments_iff none _
  · intro line hline n hopen segment hm hcloses
    exact getLast?_of_closes_of_mem_wrapLine hopen ((tidy_beforeWrapping content).1.trimmed line hline)
      (Text.not_mem_of_mem_lines hline) hm hcloses

/-- A wide line of code whose first word is a run of backticks with a no-break space at its end. -/
def shuttingLine : Text := "```\u00a0 ".toList ++ List.replicate 118 'b'

theorem kinded_wrapCode_iff_shuttingLine :
    shuttingLine ∈ Text.lines (beforeWrapping ("```\n".toList ++ shuttingLine)) ∧
      closes 3 shuttingLine = false ∧
      "```\u00a0".toList ∈ wrapLine wrapWidth shuttingLine ∧
      closes 3 "```\u00a0".toList = true ∧
      ∃ blank ∈ "```\u00a0".toList.getLast?, isOddBlank blank = true := by
  have hline : shuttingLine ∈ Text.lines (beforeWrapping ("```\n".toList ++ shuttingLine)) := by
    decide +kernel
  have hopen : closes 3 shuttingLine = false := by decide +kernel
  have hm : "```\u00a0".toList ∈ wrapLine wrapWidth shuttingLine := by decide +kernel
  have hcloses : closes 3 "```\u00a0".toList = true := by decide +kernel
  exact ⟨hline, hopen, hm, hcloses, (kinded_wrapCode_iff _).2 _ hline 3 hopen _ hm hcloses⟩

theorem kinded_wrapCode_shuttingLine_ne :
    kinded (Text.lines (wrapCode (beforeWrapping ("```\n".toList ++ shuttingLine)))) ≠
      inherited (kinded (Text.lines (beforeWrapping ("```\n".toList ++ shuttingLine)))) := by
  decide +kernel

end SourceBook.Markdown
