import SourceBook.Proofs.Text.Lines

namespace SourceBook.Text

def unifyFrom (before : Char) (text : Text) : Text :=
  ((before :: text).zip text).filterMap fun (before, c) =>
    if c = '\r' then some '\n' else if c = '\n' ∧ before = '\r' then none else some c

theorem unifyBreaks_eq_unifyFrom (text : Text) : unifyBreaks text = unifyFrom ' ' text := rfl

@[simp] theorem unifyFrom_nil (before : Char) : unifyFrom before [] = [] := rfl

theorem unifyFrom_cons (before c : Char) (text : Text) :
    unifyFrom before (c :: text) =
      (if c = '\r' then ['\n'] else if c = '\n' ∧ before = '\r' then [] else [c]) ++
        unifyFrom c text := by
  by_cases hr : c = '\r'
  · simp [unifyFrom, hr]
  · by_cases hn : c = '\n' ∧ before = '\r'
    · simp [unifyFrom, hn]
    · simp [unifyFrom, hr, hn]

/-- Only a carriage return changes how the text behind it is read. -/
theorem unifyFrom_eq_unifyBreaks {before : Char} (h : before ≠ '\r') (text : Text) :
    unifyFrom before text = unifyBreaks text := by
  cases text with
  | nil => rfl
  | cons c text => simp [unifyBreaks_eq_unifyFrom, unifyFrom_cons, h]

theorem return_not_mem_unifyFrom (before : Char) (text : Text) : '\r' ∉ unifyFrom before text := by
  induction text generalizing before with
  | nil => simp
  | cons c text ih =>
      rw [unifyFrom_cons, List.mem_append, not_or]
      refine ⟨?_, ih c⟩
      split_ifs with hr hn
      · simp
      · simp
      · simp [Ne.symm hr]

theorem mem_unifyFrom {before c : Char} {text : Text} (h : c ∈ unifyFrom before text) :
    c = '\n' ∨ c ∈ text := by
  induction text generalizing before with
  | nil => simp at h
  | cons d text ih =>
      rw [unifyFrom_cons, List.mem_append] at h
      rcases h with h | h
      · split_ifs at h with hr hn
        · exact .inl (List.mem_singleton.1 h)
        · exact absurd h List.not_mem_nil
        · exact .inr (List.mem_singleton.1 h ▸ List.mem_cons_self)
      · exact (ih h).imp_right (List.mem_cons_of_mem d)

theorem unifyBreaks_eq_self {text : Text} (h : '\r' ∉ text) : unifyBreaks text = text := by
  induction text with
  | nil => rfl
  | cons c text ih =>
      rw [List.mem_cons, not_or] at h
      rw [unifyBreaks_eq_unifyFrom, unifyFrom_cons, unifyFrom_eq_unifyBreaks (Ne.symm h.1), ih h.2]
      simp [Ne.symm h.1]

theorem unifyFrom_append_break (before : Char) (a b : Text) :
    unifyFrom before (a ++ '\n' :: b) = unifyFrom before (a ++ ['\n']) ++ unifyBreaks b := by
  induction a generalizing before with
  | nil =>
      rw [List.nil_append, List.nil_append, unifyFrom_cons, unifyFrom_cons, unifyFrom_nil,
        List.append_nil, unifyFrom_eq_unifyBreaks (by decide)]
  | cons c a ih =>
      rw [List.cons_append, List.cons_append, unifyFrom_cons, unifyFrom_cons, ih, List.append_assoc]

theorem unifyBreaks_append_break (a b : Text) :
    unifyBreaks (a ++ '\n' :: b) = unifyBreaks (a ++ ['\n']) ++ unifyBreaks b :=
  unifyFrom_append_break ' ' a b

/-- The text in front of a line feed ends in a line feed when its breaks are unified. -/
theorem exists_unifyFrom_append_break (before : Char) (text : Text) (h : text ≠ [] ∨ before ≠ '\r') :
    ∃ start, unifyFrom before (text ++ ['\n']) = start ++ ['\n'] := by
  induction text generalizing before with
  | nil =>
      have hb : before ≠ '\r' := by simpa using h
      exact ⟨[], by simp [unifyFrom_cons, hb]⟩
  | cons c text ih =>
      rw [List.cons_append, unifyFrom_cons]
      by_cases ht : text = [] ∧ c = '\r'
      · obtain ⟨rfl, rfl⟩ := ht
        exact ⟨[], by simp [unifyFrom_cons]⟩
      · obtain ⟨start, hs⟩ := ih c (by tauto)
        exact ⟨_, by rw [hs, ← List.append_assoc]⟩

theorem mem_breakLines {text line : Text} (h : line ∈ breakLines text) : '\n' ∉ line ∧ '\r' ∉ line :=
  ⟨not_mem_of_mem_lines h, fun hr =>
    return_not_mem_unifyFrom ' ' text (mem_of_mem_lines h hr)⟩

theorem breakLines_eq_lines {text : Text} (h : '\r' ∉ text) : breakLines text = lines text := by
  rw [breakLines, unifyBreaks_eq_self h]

/-- A line feed behind a text ends its last line, also where it only completes a carriage return. -/
theorem breakLines_append_break (a b : Text) :
    breakLines (a ++ '\n' :: b) = (breakLines (a ++ ['\n'])).dropLast ++ breakLines b := by
  obtain ⟨start, hs⟩ := exists_unifyFrom_append_break ' ' a (.inr (by decide))
  rw [← unifyBreaks_eq_unifyFrom] at hs
  rw [breakLines, breakLines, breakLines, unifyBreaks_append_break, hs, List.append_assoc,
    List.singleton_append, lines_append_break, lines_append_break, lines_nil, List.dropLast_concat]

end SourceBook.Text
