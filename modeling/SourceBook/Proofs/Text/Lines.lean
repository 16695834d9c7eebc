import SourceBook.Text.Lines
import Mathlib.Data.List.Infix

namespace SourceBook.Text

def OneLine (text : Text) : Prop := ∀ c ∈ text, isLineEnd c = false

-- The list is named because Batteries also decides such statements over all characters.
instance (text : Text) : Decidable (OneLine text) :=
  List.decidableBAll (fun c => isLineEnd c = false) text

theorem OneLine.break_not_mem {text : Text} (h : OneLine text) : '\n' ∉ text :=
  fun hc => absurd (h _ hc) (by decide)

theorem OneLine.return_not_mem {text : Text} (h : OneLine text) : '\r' ∉ text :=
  fun hc => absurd (h _ hc) (by decide)

theorem OneLine.append {a b : Text} (ha : OneLine a) (hb : OneLine b) : OneLine (a ++ b) := by
  intro c hc
  rw [List.mem_append] at hc
  exact hc.elim (ha c) (hb c)

theorem mem_splitOn {a : Char} {text piece : Text} (h : piece ∈ text.splitOn a) :
    a ∉ piece ∧ ∀ c ∈ piece, c ∈ text := by
  induction text generalizing piece with
  | nil => simp_all
  | cons d text ih =>
      obtain ⟨first, rest, hs⟩ := List.exists_cons_of_ne_nil (List.splitOn_ne_nil a text)
      rw [List.splitOn_cons_eq_if_modifyHead, hs] at h
      split_ifs at h with hd
      · rw [← hs, List.mem_cons] at h
        rcases h with rfl | h
        · simp
        · exact ⟨(ih h).1, fun c hc => List.mem_cons_of_mem _ ((ih h).2 c hc)⟩
      · rw [List.modifyHead_cons, List.mem_cons] at h
        rcases h with rfl | h
        · obtain ⟨hn, hm⟩ := ih (hs ▸ List.mem_cons_self)
          have hda : a ≠ d := fun he => hd (by simp [he])
          refine ⟨by simp [hda, hn], fun c hc => ?_⟩
          rw [List.mem_cons] at hc ⊢
          exact hc.imp_right (hm c)
        · obtain ⟨hn, hm⟩ := ih (hs ▸ List.mem_cons_of_mem _ h)
          exact ⟨hn, fun c hc => List.mem_cons_of_mem _ (hm c hc)⟩

theorem flatMap_filter_splitOn {p : Char → Bool} {a : Char} (h : p a = false) (text : Text) :
    (text.splitOn a).flatMap (List.filter p) = text.filter p := by
  induction text with
  | nil => rfl
  | cons c text ih =>
      rw [List.splitOn_cons_eq_if_modifyHead]
      split_ifs with hc
      · rw [List.flatMap_cons, ih, eq_of_beq hc, List.filter_cons_of_neg (by simp [h])]
        rfl
      · obtain ⟨first, rest, hs⟩ := List.exists_cons_of_ne_nil (List.splitOn_ne_nil a text)
        rw [hs, List.flatMap_cons] at ih
        rw [hs, List.modifyHead_cons, List.flatMap_cons, List.filter_cons, List.filter_cons, ← ih]
        split_ifs <;> rfl

theorem lines_ne_nil (text : Text) : lines text ≠ [] := List.splitOn_ne_nil _ _

theorem lines_nil : lines [] = [[]] := List.splitOn_nil _

theorem lines_append_break (a b : Text) : lines (a ++ '\n' :: b) = lines a ++ lines b :=
  List.splitOn_append_cons_self ..

theorem lines_cons_break (text : Text) : lines ('\n' :: text) = [] :: lines text := by
  simpa [lines_nil] using lines_append_break [] text

theorem lines_cons_of_ne {c : Char} (h : c ≠ '\n') (text : Text) :
    lines (c :: text) = (lines text).modifyHead (c :: ·) := by
  simp [lines, List.splitOn_cons_eq_if_modifyHead, h]

theorem lines_of_not_mem {line : Text} (h : '\n' ∉ line) : lines line = [line] :=
  List.splitOn_eq_singleton h

theorem not_mem_of_mem_lines {text line : Text} (h : line ∈ lines text) : '\n' ∉ line :=
  (mem_splitOn h).1

theorem mem_of_mem_lines {c : Char} {text line : Text} (h : line ∈ lines text) (hc : c ∈ line) :
    c ∈ text :=
  (mem_splitOn h).2 c hc

theorem unlines_nil : unlines [] = [] := List.intercalate_nil

theorem unlines_singleton (line : Text) : unlines [line] = line := List.intercalate_singleton

theorem unlines_cons {pieces : List Text} (h : pieces ≠ []) (line : Text) :
    unlines (line :: pieces) = line ++ '\n' :: unlines pieces := by
  simp [unlines, List.intercalate_cons_of_ne_nil h]

theorem unlines_append {a b : List Text} (ha : a ≠ []) (hb : b ≠ []) :
    unlines (a ++ b) = unlines a ++ '\n' :: unlines b := by
  induction a with
  | nil => exact absurd rfl ha
  | cons line a ih =>
      by_cases h : a = []
      · subst h
        rw [List.singleton_append, unlines_cons hb, unlines_singleton]
      · rw [List.cons_append, unlines_cons (by simp [h]), ih h, unlines_cons h]
        simp

theorem lines_unlines_flatMap {pieces : List Text} (hne : pieces ≠ []) :
    lines (unlines pieces) = pieces.flatMap lines := by
  induction pieces with
  | nil => exact absurd rfl hne
  | cons piece pieces ih =>
      by_cases hp : pieces = []
      · subst hp
        rw [unlines_singleton, List.flatMap_singleton]
      · rw [unlines_cons hp, lines_append_break, ih hp, List.flatMap_cons]

theorem unlines_flatMap_lines {pieces : List Text} (h : pieces ≠ []) :
    unlines (pieces.flatMap lines) = unlines pieces := by
  rw [← lines_unlines_flatMap h, unlines_lines]

theorem length_lines_eq_one_iff {text : Text} : (lines text).length = 1 ↔ '\n' ∉ text := by
  constructor
  · intro h
    obtain ⟨line, hline⟩ := List.length_eq_one_iff.1 h
    have htext : text = line := by rw [← unlines_lines text, hline, unlines_singleton]
    have hmem : line ∈ lines text := by rw [hline]; exact List.mem_singleton_self line
    exact htext ▸ not_mem_of_mem_lines hmem
  · intro h
    rw [lines_of_not_mem h, List.length_singleton]

/-- Each piece is one line exactly if none is broken. -/
theorem length_flatMap_lines_eq_iff {pieces : List Text} :
    (pieces.flatMap lines).length = pieces.length ↔ ∀ piece ∈ pieces, '\n' ∉ piece := by
  have hpos (text : Text) : 0 < (lines text).length := List.length_pos_iff.2 (lines_ne_nil text)
  have hle (pieces : List Text) : pieces.length ≤ (pieces.flatMap lines).length := by
    induction pieces with
    | nil => exact Nat.le_refl _
    | cons piece pieces ih =>
        have hpiece := hpos piece
        rw [List.flatMap_cons, List.length_append, List.length_cons]
        omega
  induction pieces with
  | nil => simp
  | cons piece pieces ih =>
      have hpiece := hpos piece
      have hrest := hle pieces
      rw [List.flatMap_cons, List.length_append, List.length_cons, List.forall_mem_cons]
      constructor
      · intro h
        exact ⟨length_lines_eq_one_iff.1 (by omega), ih.1 (by omega)⟩
      · rintro ⟨hbreak, h⟩
        rw [length_lines_eq_one_iff.2 hbreak, ih.2 h, Nat.add_comm]

theorem unlines_append_nil (pieces : List Text) :
    unlines (pieces ++ [[]]) = pieces.flatMap (· ++ ['\n']) := by
  induction pieces with
  | nil => simp [unlines_singleton]
  | cons line pieces ih =>
      rw [List.cons_append, unlines_cons (by simp), ih, List.flatMap_cons]
      simp

theorem mem_intercalate {c : Char} {between : Text} {pieces : List Text}
    (h : c ∈ between.intercalate pieces) : c ∈ between ∨ ∃ piece ∈ pieces, c ∈ piece := by
  induction pieces with
  | nil => simp [List.intercalate_nil] at h
  | cons piece pieces ih =>
      by_cases hp : pieces = []
      · subst hp
        rw [List.intercalate_singleton] at h
        exact .inr ⟨piece, by simp, h⟩
      · rw [List.intercalate_cons_of_ne_nil hp, List.mem_append, List.mem_append] at h
        rcases h with (h | h) | h
        · exact .inr ⟨piece, by simp, h⟩
        · exact .inl h
        · exact (ih h).imp_right fun ⟨other, hm, h⟩ => ⟨other, by simp [hm], h⟩

theorem mem_unlines {c : Char} {pieces : List Text} (h : c ∈ unlines pieces) :
    c = '\n' ∨ ∃ line ∈ pieces, c ∈ line :=
  (mem_intercalate h).imp_left List.mem_singleton.1

/-- A character other than a line feed stands on some line. -/
theorem exists_mem_lines {c : Char} {text : Text} (hc : c ∈ text) (hne : c ≠ '\n') :
    ∃ line ∈ lines text, c ∈ line := by
  rw [← unlines_lines text] at hc
  exact (mem_unlines hc).resolve_left hne

theorem filter_unlines {p : Char → Bool} (h : p '\n' = false) (pieces : List Text) :
    (unlines pieces).filter p = pieces.flatMap (List.filter p) := by
  induction pieces with
  | nil => simp [unlines_nil]
  | cons line pieces ih =>
      by_cases hp : pieces = []
      · subst hp
        simp [unlines_singleton]
      · rw [unlines_cons hp, List.filter_append, List.filter_cons_of_neg (by simp [h]), ih,
          List.flatMap_cons]

/-- Three line feeds in a row are two empty lines between two others. -/
theorem three_breaks_infix_iff (text : Text) :
    ['\n', '\n', '\n'] <:+: text ↔
      ∃ above below, above ≠ [] ∧ below ≠ [] ∧ lines text = above ++ [] :: [] :: below := by
  constructor
  · rintro ⟨s, t, rfl⟩
    refine ⟨lines s, lines t, lines_ne_nil s, lines_ne_nil t, ?_⟩
    rw [List.append_assoc, List.cons_append, lines_append_break]
    simp [lines_cons_break]
  · rintro ⟨above, below, ha, hb, h⟩
    refine ⟨unlines above, unlines below, ?_⟩
    rw [← unlines_lines text, h, unlines_append ha (by simp), unlines_cons (by simp),
      unlines_cons hb]
    simp

end SourceBook.Text
