import SourceBook.Proofs.Text.Breaks

namespace SourceBook.Text

def isBreak (c : Char) : Bool := c == '\n' || c == '\r'

def breakAt? : Text → Option (Text × Text)
  | '\r' :: '\n' :: below => some (['\r', '\n'], below)
  | '\r' :: below => some (['\r'], below)
  | '\n' :: below => some (['\n'], below)
  | _ => none

def Unbroken (line : Text) : Prop := ∀ c ∈ line, isBreak c = false

theorem Unbroken.cons_iff {c : Char} {line : Text} :
    Unbroken (c :: line) ↔ isBreak c = false ∧ Unbroken line :=
  List.forall_mem_cons

theorem Unbroken.drop {line : Text} (h : Unbroken line) (n : Nat) : Unbroken (line.drop n) :=
  fun c hc => h c (List.mem_of_mem_drop hc)

theorem ne_of_isBreak_eq_false {c : Char} (h : isBreak c = false) : c ≠ '\n' ∧ c ≠ '\r' := by
  simpa [isBreak] using h

theorem breakAt?_of_isBreak_eq_false {c : Char} (h : isBreak c = false) (text : Text) :
    breakAt? (c :: text) = none := by
  obtain ⟨hn, hr⟩ := ne_of_isBreak_eq_false h
  rw [breakAt?.eq_def]
  split <;> simp_all

section

variable {text own below : Text} (h : breakAt? text = some (own, below))

include h

theorem breakAt?_cases :
    (own = ['\r', '\n'] ∧ text = '\r' :: '\n' :: below) ∨
      (own = ['\r'] ∧ text = '\r' :: below ∧ below.head? ≠ some '\n') ∨
      own = ['\n'] ∧ text = '\n' :: below := by
  rw [breakAt?.eq_def] at h
  split at h
  · cases h
    exact .inl ⟨rfl, rfl⟩
  · next hn =>
      cases h
      refine .inr (.inl ⟨rfl, rfl, fun hb => ?_⟩)
      obtain ⟨rest, rfl⟩ := List.head?_eq_some_iff.1 hb
      exact hn rest rfl
  · cases h
    exact .inr (.inr ⟨rfl, rfl⟩)
  · exact absurd h (by simp)

theorem length_lt_of_breakAt? : below.length < text.length := by
  rcases breakAt?_cases h with ⟨-, rfl⟩ | ⟨-, rfl, -⟩ | ⟨-, rfl⟩ <;> simp only [List.length_cons] <;> omega

theorem firstBreak_of_breakAt? : firstBreak text = own := by
  rcases breakAt?_cases h with ⟨rfl, rfl⟩ | ⟨rfl, rfl, hb⟩ | ⟨rfl, rfl⟩
  · rfl
  · cases below with
    | nil => rfl
    | cons c below =>
        have hc : c ≠ '\n' := by simpa using hb
        rw [firstBreak.eq_def]
        simp [hc]
  · rfl

theorem unifyBreaks_of_breakAt? : unifyBreaks text = '\n' :: unifyBreaks below := by
  have hbehind : unifyFrom '\n' below = unifyBreaks below := unifyFrom_eq_unifyBreaks (by decide) below
  rcases breakAt?_cases h with ⟨-, rfl⟩ | ⟨-, rfl, hb⟩ | ⟨-, rfl⟩
  · rw [unifyBreaks_eq_unifyFrom, unifyFrom_cons, unifyFrom_cons, hbehind]
    rfl
  · cases below with
    | nil => rfl
    | cons c below =>
        have hc : c ≠ '\n' := by simpa using hb
        simp [unifyBreaks_eq_unifyFrom, unifyFrom_cons, hc]
  · rw [unifyBreaks_eq_unifyFrom, unifyFrom_cons, hbehind]
    rfl

end

section

variable {line : Text} (h : Unbroken line)

include h

theorem unifyBreaks_append_of_unbroken (next : Text) :
    unifyBreaks (line ++ next) = line ++ unifyBreaks next := by
  induction line with
  | nil => rfl
  | cons c line ih =>
      obtain ⟨hc, hl⟩ := Unbroken.cons_iff.1 h
      obtain ⟨hn, hr⟩ := ne_of_isBreak_eq_false hc
      rw [List.cons_append, unifyBreaks_eq_unifyFrom, unifyFrom_cons, unifyFrom_eq_unifyBreaks hr, ih hl]
      simp [hn, hr]

theorem breakLines_of_unbroken : breakLines line = [line] := by
  have hn : '\n' ∉ line := fun hm => absurd (h _ hm) (by decide)
  have hr : '\r' ∉ line := fun hm => absurd (h _ hm) (by decide)
  rw [breakLines_eq_lines hr, lines_of_not_mem hn]

theorem breakLines_append_of_breakAt? {next own below : Text} (hb : breakAt? next = some (own, below)) :
    breakLines (line ++ next) = line :: breakLines below := by
  have hn : '\n' ∉ line := fun hm => absurd (h _ hm) (by decide)
  rw [breakLines, unifyBreaks_append_of_unbroken h, unifyBreaks_of_breakAt? hb, lines_append_break,
    lines_of_not_mem hn]
  rfl

theorem firstBreak_append_of_breakAt? {next own below : Text}
    (hb : breakAt? next = some (own, below)) : firstBreak (line ++ next) = own := by
  induction line with
  | nil => exact firstBreak_of_breakAt? hb
  | cons c line ih =>
      obtain ⟨hc, hl⟩ := Unbroken.cons_iff.1 h
      obtain ⟨hn, hr⟩ := ne_of_isBreak_eq_false hc
      rw [List.cons_append, firstBreak.eq_def]
      split
      · next heq => cases heq
      · next heq => exact absurd (List.cons.inj heq).1 hr
      · next heq =>
          obtain ⟨rfl, rfl⟩ := List.cons.inj heq
          rw [if_neg (by simp [hn, hr]), ih hl]

end

/-- A text is one line, or a line and a break with the rest of the text behind it. -/
theorem exists_unbroken_append (text : Text) :
    ∃ line next, text = line ++ next ∧ Unbroken line ∧
      (next = [] ∨ ∃ own below, breakAt? next = some (own, below)) := by
  induction text with
  | nil => exact ⟨[], [], rfl, by simp [Unbroken], .inl rfl⟩
  | cons c text ih =>
      cases hc : isBreak c with
      | false =>
          obtain ⟨line, next, rfl, hl, hn⟩ := ih
          exact ⟨c :: line, next, rfl, Unbroken.cons_iff.2 ⟨hc, hl⟩, hn⟩
      | true =>
          refine ⟨[], c :: text, rfl, by simp [Unbroken], .inr ?_⟩
          rw [isBreak, Bool.or_eq_true, beq_iff_eq, beq_iff_eq] at hc
          rcases hc with rfl | rfl
          · exact ⟨_, _, rfl⟩
          · cases text with
            | nil => exact ⟨_, _, rfl⟩
            | cons d text =>
                by_cases hd : d = '\n'
                · subst hd
                  exact ⟨_, _, rfl⟩
                · refine ⟨['\r'], d :: text, ?_⟩
                  rw [breakAt?.eq_def]
                  simp [hd]

end SourceBook.Text
