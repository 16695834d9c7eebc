import SourceBook.Document.Listing
import SourceBook.Proofs.Text.Lines

namespace SourceBook.Document

theorem isDigit_of_mem_toString {n : Nat} {c : Char} (h : c ∈ (toString n).toList) :
    c.isDigit = true := by
  rw [Nat.toString_eq_repr, Nat.toList_repr] at h
  exact Nat.isDigit_of_mem_toDigits (by decide) (by decide) h

theorem not_mem_toString {c : Char} (hc : c.isDigit = false) (n : Nat) : c ∉ (toString n).toList := by
  intro h
  rw [isDigit_of_mem_toString h] at hc
  cases hc

theorem toString_inj {m n : Nat} (h : (toString m).toList = (toString n).toList) : m = n := by
  rw [Nat.toString_eq_repr, Nat.toString_eq_repr, Nat.toList_repr, Nat.toList_repr] at h
  have hread := congrArg (Nat.ofDigitChars 10 · 0) h
  simpa using hread

/-- A text and the number behind it are told apart by any mark between them that is no digit. -/
theorem append_number_inj {c : Char} (hc : c.isDigit = false) {a b : Text} {m n : Nat}
    (h : a ++ c :: (toString m).toList = b ++ c :: (toString n).toList) : a = b ∧ m = n := by
  have hmiddle : ∀ {middle : Text} {k l : Nat},
      c :: (toString k).toList = middle ++ c :: (toString l).toList → middle = [] := by
    intro middle k l hs
    cases middle with
    | nil => rfl
    | cons first middle =>
        rw [List.cons_append, List.cons.injEq] at hs
        have hmem : c ∈ (toString k).toList := hs.2 ▸ List.mem_append_right _ List.mem_cons_self
        exact absurd hmem (not_mem_toString hc k)
  rcases List.append_eq_append_iff.1 h with ⟨middle, rfl, hs⟩ | ⟨middle, rfl, hs⟩
  · obtain rfl := hmiddle hs
    exact ⟨(List.append_nil a).symm, toString_inj (List.tail_eq_of_cons_eq hs)⟩
  · obtain rfl := hmiddle hs
    exact ⟨List.append_nil b, (toString_inj (List.tail_eq_of_cons_eq hs)).symm⟩

theorem length_toString_le {m n : Nat} (h : m ≤ n) : (toString m).length ≤ (toString n).length := by
  rw [Nat.toString_eq_repr, Nat.toString_eq_repr, Nat.length_repr_le_iff Nat.length_repr_pos]
  exact h.trans_lt ((Nat.length_repr_le_iff Nat.length_repr_pos).1 (Nat.le_refl _))

theorem length_padded {width n : Nat} (h : (toString n).length ≤ width) :
    (padded width n).length = width := by
  rw [padded, List.length_leftpad, String.length_toList]
  exact Nat.max_eq_left h

theorem break_not_mem_padded (width n : Nat) : '\n' ∉ padded width n := by
  intro h
  rw [padded, List.leftpad, List.mem_append, List.mem_replicate] at h
  rcases h with ⟨-, h⟩ | h
  · exact absurd h (by decide)
  · exact not_mem_toString (by decide) n h

def numberedLine (width : Nat) (p : Text × Nat) : Text := padded width (p.2 + 1) ++ " | ".toList ++ p.1

theorem lines_numberLines (content : Text) :
    Text.lines (numberLines content) =
      (Text.lines content).zipIdx.map (numberedLine (toString (Text.lines content).length).length) := by
  apply Text.lines_unlines
  · intro line hl hc
    obtain ⟨⟨source, i⟩, hp, rfl⟩ := List.mem_map.1 hl
    rw [List.mem_append, List.mem_append] at hc
    rcases hc with (hc | hc) | hc
    · exact break_not_mem_padded _ _ hc
    · exact absurd hc (by decide)
    · exact Text.not_mem_of_mem_lines (List.fst_mem_of_mem_zipIdx hp) hc
  · simpa using Text.lines_ne_nil content

def unnumbered (lines : List Text) : Text :=
  Text.unlines (lines.map (List.drop ((toString lines.length).length + 3)))

/-- What the lines of the code of a file are read back as. -/
def recovered (numbered : Bool) (lines : List Text) : Text :=
  if numbered then unnumbered lines else Text.unlines lines

theorem drop_numberedLine {width i : Nat} (h : (toString (i + 1)).length ≤ width) (line : Text) :
    (numberedLine width (line, i)).drop (width + 3) = line := by
  apply List.drop_left'
  rw [List.length_append, length_padded h]
  rfl

theorem unnumbered_lines_numberLines (content : Text) :
    unnumbered (Text.lines (numberLines content)) = content := by
  have hdrop : ∀ p ∈ (Text.lines content).zipIdx,
      (List.drop ((toString (Text.lines content).length).length + 3) ∘
        numberedLine (toString (Text.lines content).length).length) p = p.1 := by
    rintro ⟨line, i⟩ hp
    have hi : i < (Text.lines content).length := by simpa using List.snd_lt_of_mem_zipIdx hp
    rw [Function.comp_apply, drop_numberedLine (length_toString_le hi)]
  rw [unnumbered, lines_numberLines, List.length_map, List.length_zipIdx, List.map_map,
    List.map_congr_left hdrop, List.zipIdx_map_fst, Text.unlines_lines]

/-- A text read backwards: the line breaks that go are a run, and no further one could go with them. -/
theorem dropBreaksBackward_spec (text : Text) :
    ∃ breaks : List Text, (∀ b ∈ breaks, b = ['\n'] ∨ b = ['\r', '\n']) ∧
      text = breaks.flatten.reverse ++ dropBreaksBackward text ∧
      (dropBreaksBackward text).head? ≠ some '\n' ∧
      (breaks.head? = some ['\n'] → (dropBreaksBackward text).head? ≠ some '\r') := by
  fun_induction dropBreaksBackward text with
  | case1 rest ih =>
      obtain ⟨breaks, hb, hs, hn, hr⟩ := ih
      refine ⟨breaks ++ [['\r', '\n']], fun b hm => ?_, ?_, hn, fun hh => hr ?_⟩
      · rw [List.mem_append, List.mem_singleton] at hm
        exact hm.elim (hb b) .inr
      · rw [List.flatten_append, List.reverse_append, List.append_assoc, ← hs]
        rfl
      · cases breaks with
        | nil => exact absurd hh (by decide)
        | cons first breaks => exact hh
  | case2 rest hrest ih =>
      obtain ⟨breaks, hb, hs, hn, hr⟩ := ih
      refine ⟨breaks ++ [['\n']], fun b hm => ?_, ?_, hn, fun hh => ?_⟩
      · rw [List.mem_append, List.mem_singleton] at hm
        exact hm.elim (hb b) .inl
      · rw [List.flatten_append, List.reverse_append, List.append_assoc, ← hs]
        rfl
      · cases breaks with
        | nil =>
            intro hreturn
            obtain ⟨tail, ht⟩ := List.head?_eq_some_iff.1 hreturn
            rw [ht] at hs
            exact hrest tail hs
        | cons first breaks => exact hr hh
  | case3 text _ hrest =>
      refine ⟨[], by simp, rfl, fun hh => ?_, nofun⟩
      obtain ⟨tail, ht⟩ := List.head?_eq_some_iff.1 hh
      exact hrest tail ht

/-- `body` is `content` without the run of line breaks at its end, each of them a line feed with or
without a carriage return. -/
def IsBodyOf (body content : Text) : Prop :=
  ∃ breaks : List Text, (∀ b ∈ breaks, b = ['\n'] ∨ b = ['\r', '\n']) ∧
    content = body ++ breaks.flatten ∧ body.getLast? ≠ some '\n' ∧
    (breaks.head? = some ['\n'] → body.getLast? ≠ some '\r')

theorem isBodyOf_dropEndBreaks (content : Text) : IsBodyOf (dropEndBreaks content) content := by
  obtain ⟨breaks, hb, hs, hn, hr⟩ := dropBreaksBackward_spec content.reverse
  rw [IsBodyOf, dropEndBreaks, List.getLast?_reverse]
  refine ⟨breaks, hb, ?_, hn, hr⟩
  simpa using congrArg List.reverse hs

end SourceBook.Document
