import SourceBook.Text.Blank
import SourceBook.Proofs.Text.Lines
import Mathlib.Data.List.DropRight

namespace SourceBook.Text

theorem isBlank_break : isBlank '\n' = true := rfl

theorem isBlank_space : isBlank ' ' = true := rfl

theorem isBlank_of_isLineEnd {c : Char} (h : isLineEnd c = true) : isBlank c = true := by
  simp only [isLineEnd, Bool.or_eq_true, beq_iff_eq] at h
  rcases h with ((rfl | rfl) | h) | h
  · rfl
  · rfl
  · simp [isBlank, h]
  · simp [isBlank, h]

theorem isBlank_of_isDigit {c : Char} (h : c.isDigit = true) : isBlank c = false := by
  obtain ⟨hlow, hhigh⟩ : 48 ≤ c.toNat ∧ c.toNat ≤ 57 := Char.isDigit_iff_toNat.1 h
  rw [Bool.eq_false_iff]
  intro hb
  simp only [isBlank, Bool.or_eq_true, Bool.and_eq_true, decide_eq_true_eq, beq_iff_eq] at hb
  omega

theorem ne_of_isBlank {c d : Char} (hc : isBlank c = true) (hd : isBlank d = false) : c ≠ d := by
  rintro rfl
  rw [hd] at hc
  exact absurd hc (by decide)

theorem isLineEnd_of_visible {c : Char} (h : isBlank c = false) : isLineEnd c = false := by
  by_contra he
  rw [Bool.not_eq_false] at he
  rw [isBlank_of_isLineEnd he] at h
  exact absurd h (by decide)

theorem oneLine_of_visible {text : Text} (h : ∀ c ∈ text, isBlank c = false) : OneLine text :=
  fun c hc => isLineEnd_of_visible (h c hc)

-- Batteries decides this over all characters, so what is computed is a `Bool`.
theorem visible_of_all {text : Text} (h : (text.all fun c => !isBlank c) = true) :
    ∀ c ∈ text, isBlank c = false := by
  simpa using h

/-- A text that fits on one line as it is: neither a tab nor a line break stands in it. -/
def Flat (text : Text) : Prop := '\t' ∉ text ∧ '\r' ∉ text ∧ '\n' ∉ text

instance (text : Text) : Decidable (Flat text) :=
  inferInstanceAs (Decidable ('\t' ∉ text ∧ '\r' ∉ text ∧ '\n' ∉ text))

theorem flat_append {a b : Text} : Flat (a ++ b) ↔ Flat a ∧ Flat b := by
  simp only [Flat, List.mem_append]
  tauto

theorem flat_of_visible {text : Text} (h : ∀ c ∈ text, isBlank c = false) : Flat text := by
  have hnot {c : Char} (hc : isBlank c = true) : c ∉ text := fun hm => ne_of_isBlank hc (h c hm) rfl
  exact ⟨hnot rfl, hnot rfl, hnot rfl⟩

theorem trimEnd_concat (text : Text) (c : Char) :
    trimEnd (text ++ [c]) = if isBlank c then trimEnd text else text ++ [c] := by
  induction text with
  | nil => cases h : isBlank c <;> simp [trimEnd_cons, trimEnd_nil, h]
  | cons d text ih =>
      rw [List.cons_append, trimEnd_cons, ih]
      split
      · rw [trimEnd_cons]
      · simp

theorem trimEnd_eq_rdropWhile (text : Text) : trimEnd text = text.rdropWhile isBlank := by
  induction text using List.reverseRecOn with
  | nil => rfl
  | append_singleton text c ih => rw [trimEnd_concat, List.rdropWhile_concat, ih]

theorem trimEnd_isPrefix (text : Text) : trimEnd text <+: text := by
  rw [trimEnd_eq_rdropWhile]
  exact List.rdropWhile_prefix _ _

theorem exists_eq_trimEnd_append (text : Text) :
    ∃ tail, text = trimEnd text ++ tail ∧ ∀ c ∈ tail, isBlank c = true := by
  refine ⟨text.rtakeWhile isBlank, ?_, fun c hc => List.mem_rtakeWhile_imp hc⟩
  rw [trimEnd_eq_rdropWhile, List.rdropWhile_append_rtakeWhile]

theorem trimEnd_eq_self_iff {text : Text} :
    trimEnd text = text ↔ ∀ c ∈ text.getLast?, isBlank c = false := by
  induction text using List.reverseRecOn with
  | nil => simp [trimEnd_nil]
  | append_singleton text c _ =>
      rw [trimEnd_concat]
      cases hc : isBlank c with
      | false => simp [hc]
      | true =>
          have hlt : trimEnd text ≠ text ++ [c] := fun h => by
            have := (trimEnd_isPrefix text).length_le
            rw [h, List.length_append, List.length_singleton] at this
            omega
          simp [hc, hlt]

theorem trimEnd_append_of_blank {b : Text} (h : ∀ c ∈ b, isBlank c = true) (a : Text) :
    trimEnd (a ++ b) = trimEnd a := by
  induction b using List.reverseRecOn with
  | nil => simp
  | append_singleton b c ih =>
      rw [← List.append_assoc, trimEnd_concat, if_pos (h c (by simp))]
      exact ih fun d hd => h d (by simp [hd])

theorem trimEnd_append_of_trimmed {b : Text} (h : trimEnd b = b) (hb : b ≠ []) (a : Text) :
    trimEnd (a ++ b) = a ++ b := by
  rw [trimEnd_eq_self_iff] at h ⊢
  rwa [List.getLast?_append_of_ne_nil _ hb]

theorem trimEnd_append {b : Text} (h : trimEnd b ≠ []) (a : Text) : trimEnd (a ++ b) = a ++ trimEnd b := by
  obtain ⟨tail, hb, hblank⟩ := exists_eq_trimEnd_append b
  conv_lhs => rw [hb, ← List.append_assoc, trimEnd_append_of_blank hblank]
  exact trimEnd_append_of_trimmed (trimEnd_trimEnd b) h a

/-- A trimmed text is not cut into when blanks behind it are trimmed. -/
theorem length_le_length_trimEnd_append {a : Text} (h : trimEnd a = a) (b : Text) :
    a.length ≤ (trimEnd (a ++ b)).length := by
  by_cases hb : trimEnd b = []
  · rw [trimEnd_eq_nil_iff, allBlank, List.all_eq_true] at hb
    rw [trimEnd_append_of_blank hb, h]
  · rw [trimEnd_append hb, List.length_append]
    omega

theorem allBlank_eq_false {text : Text} {c : Char} (hc : c ∈ text) (hv : isBlank c = false) :
    allBlank text = false := by
  rw [Bool.eq_false_iff]
  intro h
  rw [allBlank, List.all_eq_true] at h
  rw [h c hc] at hv
  exact absurd hv (by decide)

theorem eq_nil_of_allBlank {text : Text} (h : trimEnd text = text) (hb : allBlank text = true) :
    text = [] := by
  rw [← h, trimEnd_eq_nil_iff, hb]

theorem exists_eq_append_replicate (pieces : List Text) :
    ∃ kept n, pieces = kept ++ List.replicate n [] ∧ ∀ line ∈ kept.getLast?, line ≠ [] := by
  induction pieces using List.reverseRecOn with
  | nil => exact ⟨[], 0, rfl, by simp⟩
  | append_singleton pieces line ih =>
      by_cases hl : line = []
      · obtain ⟨kept, n, rfl, hk⟩ := ih
        refine ⟨kept, n + 1, ?_, hk⟩
        rw [hl, List.replicate_succ', List.append_assoc]
      · exact ⟨pieces ++ [line], 0, by simp, by simp [hl]⟩

theorem trimEnd_unlines_replicate (pieces : List Text) (n : Nat) :
    trimEnd (unlines (pieces ++ List.replicate n [])) = trimEnd (unlines pieces) := by
  induction n with
  | zero => simp
  | succ n ih =>
      rw [List.replicate_succ', ← List.append_assoc, ← ih]
      by_cases hp : pieces ++ List.replicate n [] = []
      · rw [hp, List.nil_append, unlines_singleton, unlines_nil]
      · rw [unlines_append hp (by simp), unlines_singleton]
        exact trimEnd_append_of_blank (by simp [isBlank_break]) _

/-- Trimming a document drops the empty lines at its end, and nothing more when the line above them is
trimmed. -/
theorem trimEnd_unlines {kept : List Text}
    (h : ∀ line ∈ kept.getLast?, line ≠ [] ∧ trimEnd line = line) (n : Nat) :
    trimEnd (unlines (kept ++ List.replicate n [])) = unlines kept := by
  rw [trimEnd_unlines_replicate]
  induction kept using List.reverseRecOn with
  | nil => simp [unlines_nil, trimEnd_nil]
  | append_singleton kept line _ =>
      obtain ⟨hne, hline⟩ := h line (by simp)
      by_cases hk : kept = []
      · rw [hk, List.nil_append, unlines_singleton, hline]
      · rw [unlines_append hk (by simp), unlines_singleton, List.append_cons]
        exact trimEnd_append_of_trimmed hline hne _

theorem exists_unlines_eq (init : List Text) {last : Text} (hne : last ≠ [])
    (h : trimEnd last = last) :
    ∃ body c, unlines (init ++ [last, []]) = body ++ [c, '\n'] ∧ isBlank c = false := by
  obtain ⟨start, c, rfl⟩ := (List.eq_nil_or_concat last).resolve_left hne
  rw [List.concat_eq_append] at h ⊢
  refine ⟨unlines (init ++ [start]), c, ?_, trimEnd_eq_self_iff.1 h c (by simp)⟩
  have hlast : unlines [start ++ [c], []] = start ++ [c, '\n'] := by
    rw [unlines_cons (by simp), unlines_singleton, List.append_assoc]
    rfl
  by_cases hi : init = []
  · rw [hi, List.nil_append, List.nil_append, hlast, unlines_singleton]
  · rw [unlines_append hi (by simp), hlast, unlines_append hi (by simp),
      unlines_singleton, List.append_assoc, List.cons_append]

/-- What ends in one line feed behind a visible character has one empty line at its end. -/
theorem exists_lines_eq {text body : Text} {c : Char} (h : text = body ++ [c, '\n'])
    (hc : isBlank c = false) : ∃ init last, lines text = init ++ [last, []] ∧ last ≠ [] := by
  have hlines : lines text = lines (body ++ [c]) ++ [[]] := by
    rw [h, List.append_cons, lines_append_break, lines_nil]
  obtain ⟨init, last, hl⟩ := (List.eq_nil_or_concat _).resolve_left (lines_ne_nil (body ++ [c]))
  rw [List.concat_eq_append] at hl
  refine ⟨init, last, by rw [hlines, hl, List.append_assoc]; rfl, ?_⟩
  rintro rfl
  have hbody : unlines (init ++ [[]]) = body ++ [c] := by rw [← hl, unlines_lines]
  by_cases hi : init = []
  · rw [hi] at hbody
    exact absurd hbody.symm (by simp [unlines_singleton])
  · rw [unlines_append hi (by simp), unlines_singleton] at hbody
    obtain ⟨-, hbreak⟩ := List.append_inj' hbody rfl
    rw [← List.singleton_inj.1 hbreak] at hc
    exact absurd hc (by decide)

theorem trimStart_trim (text : Text) : trimStart (trim text) = trim text := by
  rw [trim]
  cases h : trimStart text with
  | nil => rfl
  | cons c rest =>
      have hc : isBlank c = false := by
        have hhead := List.head?_dropWhile_not isBlank text
        rw [← trimStart, h] at hhead
        simpa using hhead
      rw [trimEnd_cons, hc, Bool.and_false, if_neg Bool.false_ne_true, trimStart,
        List.dropWhile_cons_of_neg (by simp [hc])]

theorem trim_trimEnd (text : Text) : trim (trimEnd text) = trim text := by
  obtain ⟨tail, ht, hblank⟩ := exists_eq_trimEnd_append text
  rw [trim, trim, trimStart, trimStart]
  conv_rhs => rw [ht, List.dropWhile_append]
  split
  · next hnil =>
      rw [List.isEmpty_iff.1 hnil, trimEnd_nil, List.dropWhile_eq_nil_iff.2 hblank, trimEnd_nil]
  · rw [trimEnd_append_of_blank hblank]

end SourceBook.Text
