import SourceBook.Proofs.Text.FileLines

namespace SourceBook.Text

def breaks : Text → List Text
  | [] => []
  | '\r' :: '\n' :: text => ['\r', '\n'] :: breaks text
  | c :: text => if isBreak c then [c] :: breaks text else breaks text

def endings : List Text := [['\r', '\n'], ['\r'], ['\n']]

theorem breaks_of_breakAt? {text own below : Text} (h : breakAt? text = some (own, below)) :
    breaks text = own :: breaks below := by
  rcases breakAt?_cases h with ⟨rfl, rfl⟩ | ⟨rfl, rfl, hb⟩ | ⟨rfl, rfl⟩
  · rfl
  · cases below with
    | nil => rfl
    | cons c below =>
        have hc : c ≠ '\n' := by simpa using hb
        rw [breaks.eq_def]
        simp [hc, isBreak]
  · rw [breaks.eq_def]
    simp [isBreak]

theorem breaks_append_of_unbroken {line : Text} (h : Unbroken line) (next : Text) :
    breaks (line ++ next) = breaks next := by
  induction line with
  | nil => rfl
  | cons c line ih =>
      obtain ⟨hc, hl⟩ := Unbroken.cons_iff.1 h
      have hr := (ne_of_isBreak_eq_false hc).2
      rw [List.cons_append, breaks.eq_def]
      simp [hr, hc, ih hl]

theorem breaks_of_unbroken {line : Text} (h : Unbroken line) : breaks line = [] := by
  rw [← List.append_nil line, breaks_append_of_unbroken h, breaks]

theorem firstBreak_mem_endings (text : Text) : firstBreak text ∈ endings := by
  obtain ⟨line, next, rfl, hl, hn⟩ := exists_unbroken_append text
  rcases hn with rfl | ⟨own, below, hb⟩
  · induction line with
    | nil => decide
    | cons c line ih =>
        obtain ⟨hc, hl⟩ := Unbroken.cons_iff.1 hl
        obtain ⟨hn, hr⟩ := ne_of_isBreak_eq_false hc
        rw [List.cons_append, firstBreak.eq_def]
        simpa [hn, hr] using ih hl
  · rw [firstBreak_append_of_breakAt? hl hb]
    rcases breakAt?_cases hb with ⟨rfl, -⟩ | ⟨rfl, -, -⟩ | ⟨rfl, -⟩ <;> decide

theorem head?_breaks {text : Text} (h : 1 < (breakLines text).length) :
    (breaks text).head? = some (firstBreak text) := by
  obtain ⟨line, next, rfl, hl, hn⟩ := exists_unbroken_append text
  rcases hn with rfl | ⟨own, below, hb⟩
  · rw [List.append_nil, breakLines_of_unbroken hl] at h
    exact absurd h (by simp)
  · rw [breaks_append_of_unbroken hl, breaks_of_breakAt? hb, firstBreak_append_of_breakAt? hl hb]
    rfl

theorem unbroken_of_mem_breakLines {text line : Text} (h : line ∈ breakLines text) : Unbroken line := by
  obtain ⟨hn, hr⟩ := mem_breakLines h
  intro c hc
  simp only [isBreak, Bool.or_eq_false_iff, beq_eq_false_iff_ne]
  exact ⟨fun he => hn (he ▸ hc), fun he => hr (he ▸ hc)⟩

theorem breakLines_ne_nil (text : Text) : breakLines text ≠ [] := lines_ne_nil _

section

variable {ending : Text} (he : ending ∈ endings) {pieces : List Text}
  (hp : ∀ piece ∈ pieces, Unbroken piece)

include he hp

theorem breakAt?_append_intercalate :
    breakAt? (ending ++ ending.intercalate pieces) = some (ending, ending.intercalate pieces) := by
  simp only [endings, List.mem_cons, List.not_mem_nil, or_false] at he
  rcases he with rfl | rfl | rfl
  · rfl
  · -- A line feed behind the carriage return would make one break of the two.
    have hn : '\n' ∉ ['\r'].intercalate pieces := by
      intro h
      rcases mem_intercalate h with h | ⟨piece, hm, h⟩
      · exact absurd h (by decide)
      · exact absurd (hp piece hm _ h) (by decide)
    cases ht : ['\r'].intercalate pieces with
    | nil => rfl
    | cons c text =>
        have hc : c ≠ '\n' := fun hc => hn (by simp [ht, hc])
        rw [List.singleton_append, breakAt?.eq_def]
        simp [hc]
  · rfl

theorem breakLines_intercalate (hne : pieces ≠ []) : breakLines (ending.intercalate pieces) = pieces := by
  induction pieces with
  | nil => exact absurd rfl hne
  | cons line pieces ih =>
      obtain ⟨hl, hp⟩ := List.forall_mem_cons.1 hp
      by_cases h : pieces = []
      · rw [h, List.intercalate_singleton, breakLines_of_unbroken hl]
      · rw [List.intercalate_cons_of_ne_nil h, List.append_assoc,
          breakLines_append_of_breakAt? hl (breakAt?_append_intercalate he hp), ih hp h]

theorem breaks_intercalate :
    breaks (ending.intercalate pieces) = List.replicate (pieces.length - 1) ending := by
  induction pieces with
  | nil => simp [breaks]
  | cons line pieces ih =>
      obtain ⟨hl, hp⟩ := List.forall_mem_cons.1 hp
      cases pieces with
      | nil => rw [List.intercalate_singleton, breaks_of_unbroken hl]; rfl
      | cons second pieces =>
          rw [List.intercalate_cons_of_ne_nil (List.cons_ne_nil _ _), List.append_assoc,
            breaks_append_of_unbroken hl, breaks_of_breakAt? (breakAt?_append_intercalate he hp), ih hp]
          rfl

/-- The break that was put between the lines is the one that is found, as far as lines are put together
with it. -/
theorem intercalate_firstBreak_intercalate {others : List Text} (h : others.length = pieces.length) :
    (firstBreak (ending.intercalate pieces)).intercalate others = ending.intercalate others := by
  match pieces, others, hp, h with
  | [], [], _, _ => simp
  | [line], [other], _, _ => simp
  | line :: second :: pieces, _ :: _ :: _, hp, _ =>
      obtain ⟨hl, hp⟩ := List.forall_mem_cons.1 hp
      rw [List.intercalate_cons_of_ne_nil (List.cons_ne_nil second pieces), List.append_assoc,
        firstBreak_append_of_breakAt? hl (breakAt?_append_intercalate he hp)]

end

end SourceBook.Text
