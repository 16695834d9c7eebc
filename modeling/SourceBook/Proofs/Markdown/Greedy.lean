import SourceBook.Proofs.Markdown.Wrapping
import Mathlib.Data.List.Chain

namespace SourceBook.Markdown

def indent (line : Text) : Text := line.takeWhile (· == ' ')

/-- The segment keeps to the width, or cannot be cut: it has one word at most, it ends in a bare run of
backticks, or such a run starts it and has only one word to take along. -/
def Fits (width : Nat) (segment : Text) : Prop :=
  Text.width segment ≤ width ∨ (words segment).length ≤ 1 ∨
    (∃ word ∈ (words segment).getLast?, isBareFence word = true) ∨
    ∃ run word, words segment = [run, word] ∧ isBareFence run = true ∧ indent segment = []

/-- The first word of the lower segment is too wide for the upper one, and backticks keep neither of the
two from standing alone. -/
def Breaks (width : Nat) (upper lower : Text) : Prop :=
  ∃ word ∈ (words lower).head?, width < Text.width upper + 1 + Text.width word ∧
    isBareFence word = false ∧ isBareFence upper = false

structure Greedy (width : Nat) (line : Text) (segments : List Text) : Prop where
  sameWords : segments.flatMap words = words line
  indented : ∃ first rest, segments = first :: rest ∧ indent first = indent line ∧
    ∀ segment ∈ rest, segment.head? ≠ some ' '
  worded : ∀ segment ∈ segments, words segment = [] → words line = []
  spaced : ∀ segment ∈ segments, segment = indent segment ++ [' '].intercalate (words segment)
  fits : ∀ segment ∈ segments, Fits width segment
  maximal : segments.IsChain (Breaks width)
  whole : ∀ segment ∈ segments, isBareFence segment = true → words line = [segment]
  stable : ∀ segment ∈ segments, wrapLine width segment = [segment]

theorem joins_eq_false_iff {width : Nat} {segment word : Text} :
    joins width segment word = false ↔ width < Text.width segment + 1 + Text.width word ∧
      isBareFence word = false ∧ isBareFence segment = false := by
  rw [joins, Bool.or_eq_false_iff, Bool.or_eq_false_iff, decide_eq_false_iff_not, Nat.not_le]
  tauto

theorem append_spread (a word : Text) (taken : List Text) :
    spread (a ++ word) taken = a ++ spread word taken := List.append_assoc ..

theorem spread_eq_intercalate (word : Text) (taken : List Text) :
    spread word taken = [' '].intercalate (word :: taken) := by
  induction taken generalizing word with
  | nil => rw [spread_nil, List.intercalate_singleton]
  | cons next taken ih =>
      rw [List.intercalate_cons_of_ne_nil (List.cons_ne_nil _ _), ← ih, List.append_assoc]
      rfl

theorem spread_concat (segment : Text) (taken : List Text) (word : Text) :
    spread segment (taken ++ [word]) = spread segment taken ++ ' ' :: word := by
  simp [spread]

theorem isBareFence_spread {segment : Text} {taken : List Text}
    (h : isBareFence (spread segment taken) = true) : taken = [] := by
  cases taken with
  | nil => rfl
  | cons word taken =>
      rw [spread, List.flatMap_cons, List.cons_append, isBareFence_append_space] at h
      cases h

/-- The last word of a segment was taken to what stood there before. -/
theorem joins_of_fill_eq_singleton {width : Nat} {segment s word : Text} {taken : List Text}
    (h : fill width segment (taken ++ [word]) = [s]) : joins width (spread segment taken) word = true := by
  induction taken generalizing segment with
  | nil =>
      rw [List.nil_append, fill] at h
      split at h
      · next hj => rwa [spread_nil]
      · cases h
  | cons next taken ih =>
      rw [List.cons_append, fill] at h
      split at h
      · rw [spread_cons]
        exact ih h
      · rw [List.cons.injEq] at h
        exact absurd h.2 (fill_ne_nil _ _ _)

section

variable {width : Nat} {ws : List Text} (hws : ∀ word ∈ ws, word ≠ [] ∧ ' ' ∉ word)

/-- The first segment is the open one with some of the words, and every other starts with a word. -/
theorem exists_fill_eq (width : Nat) (segment : Text) (ws : List Text) :
    ∃ taken rest, fill width segment ws = spread segment taken :: rest ∧ (∀ w ∈ taken, w ∈ ws) ∧
      ∀ s ∈ rest, ∃ word ∈ ws, word <+: s := by
  induction ws generalizing segment with
  | nil => exact ⟨[], [], by rw [fill, spread_nil], by simp, by simp⟩
  | cons word ws ih =>
      rw [fill]
      split
      · obtain ⟨taken, rest, hf, htaken, hrest⟩ := ih (segment ++ ' ' :: word)
        refine ⟨word :: taken, rest, by rw [hf, spread_cons], ?_, fun s hs => ?_⟩
        · intro w hw
          rw [List.mem_cons] at hw ⊢
          exact hw.imp_right (htaken w)
        · obtain ⟨start, hstart, hs⟩ := hrest s hs
          exact ⟨start, List.mem_cons_of_mem _ hstart, hs⟩
      · obtain ⟨taken, rest, hf, -, hrest⟩ := ih word
        refine ⟨[], fill width word ws, by rw [spread_nil], by simp, fun s hs => ?_⟩
        rw [hf, List.mem_cons] at hs
        rcases hs with rfl | hs
        · exact ⟨word, List.mem_cons_self, List.prefix_append _ _⟩
        · obtain ⟨start, hstart, hs⟩ := hrest s hs
          exact ⟨start, List.mem_cons_of_mem _ hstart, hs⟩

include hws

theorem flatMap_words_fill (segment : Text) :
    (fill width segment ws).flatMap words = words segment ++ ws := by
  induction ws generalizing segment with
  | nil => simp [fill]
  | cons word ws ih =>
      obtain ⟨⟨hne, hspace⟩, hws⟩ := List.forall_mem_cons.1 hws
      rw [fill]
      split
      · rw [ih hws, words_append_space, words_of_not_mem hne hspace, List.append_assoc]
        rfl
      · rw [List.flatMap_cons, ih hws, words_of_not_mem hne hspace]
        rfl

theorem isChain_fill (segment : Text) : (fill width segment ws).IsChain (Breaks width) := by
  induction ws generalizing segment with
  | nil => exact .singleton _
  | cons word ws ih =>
      obtain ⟨hword, hws⟩ := List.forall_mem_cons.1 hws
      rw [fill]
      split
      · exact ih hws _
      · next hj =>
          refine (ih hws word).cons fun lower hlower => ?_
          obtain ⟨taken, rest, hf, htaken, -⟩ := exists_fill_eq width word ws
          rw [hf, List.head?_cons, Option.mem_some_iff] at hlower
          have hwords : words lower = word :: taken := by
            rw [← hlower]
            exact words_spread 0 hword fun w hw => hws w (htaken w hw)
          exact ⟨word, by rw [hwords]; rfl, joins_eq_false_iff.1 (Bool.eq_false_iff.2 hj)⟩

end

theorem words_indent (line : Text) : words (indent line) = [] := by
  rw [indent, takeWhile_space_eq, words_replicate_space]

theorem indent_indent (line : Text) : indent (indent line) = indent line :=
  List.takeWhile_eq_self_iff.2 fun _ => List.mem_takeWhile_imp

theorem proper_of_words_eq_cons {line word : Text} {rest : List Text} (h : words line = word :: rest) :
    ∀ w ∈ word :: rest, w ≠ [] ∧ ' ' ∉ w := by
  rw [← h]
  intro w hw
  exact ⟨(mem_words hw).1, (mem_words hw).2.1⟩

section

variable (width : Nat) (line : Text)

theorem flatMap_words_wrapLine : (wrapLine width line).flatMap words = words line := by
  cases hw : words line with
  | nil =>
      rw [wrapLine_of_words_eq_nil hw, List.flatMap_singleton]
      exact words_indent line
  | cons word rest =>
      obtain ⟨⟨hne, hspace⟩, hrest⟩ := List.forall_mem_cons.1 (proper_of_words_eq_cons hw)
      rw [wrapLine_of_words_eq_cons hw, flatMap_words_fill hrest, takeWhile_space_eq,
        words_replicate_append, words_of_not_mem hne hspace]
      rfl

theorem indented_wrapLine :
    ∃ first rest, wrapLine width line = first :: rest ∧ indent first = indent line ∧
      ∀ segment ∈ rest, segment.head? ≠ some ' ' := by
  cases hw : words line with
  | nil => exact ⟨indent line, [], wrapLine_of_words_eq_nil hw width, indent_indent line, by simp⟩
  | cons word rest =>
      obtain ⟨hword, hrest⟩ := List.forall_mem_cons.1 (proper_of_words_eq_cons hw)
      obtain ⟨taken, lower, hf, -, hlower⟩ := exists_fill_eq width (indent line ++ word) rest
      refine ⟨_, lower, by rw [wrapLine_of_words_eq_cons hw, ← hf, indent], ?_, fun segment hs => ?_⟩
      · obtain ⟨c, tail, rfl⟩ := List.exists_cons_of_ne_nil hword.1
        have hc : ' ' ≠ c := by
          rintro rfl
          exact hword.2 List.mem_cons_self
        have hspaces : ∀ d ∈ indent line, (d == ' ') = true := fun _ => List.mem_takeWhile_imp
        rw [append_spread, indent, List.takeWhile_append_of_pos hspaces, spread, List.cons_append,
          List.takeWhile_cons_of_neg (by simpa using hc.symm), List.append_nil]
      · obtain ⟨start, hstart, below, rfl⟩ := hlower segment hs
        obtain ⟨hne, hspace⟩ := hrest start hstart
        obtain ⟨c, tail, rfl⟩ := List.exists_cons_of_ne_nil hne
        rintro hhead
        exact hspace (Option.some.inj hhead ▸ List.mem_cons_self)

theorem isChain_wrapLine : (wrapLine width line).IsChain (Breaks width) := by
  cases hw : words line with
  | nil =>
      rw [wrapLine_of_words_eq_nil hw]
      exact .singleton _
  | cons word rest =>
      rw [wrapLine_of_words_eq_cons hw]
      exact isChain_fill (List.forall_mem_cons.1 (proper_of_words_eq_cons hw)).2 _

variable {width line} {segment : Text}

theorem spaced_of_mem_wrapLine (h : segment ∈ wrapLine width line) :
    segment = indent segment ++ [' '].intercalate (words segment) := by
  by_cases hw : words line = []
  · rw [wrapLine_of_words_eq_nil hw, List.mem_singleton] at h
    obtain rfl : segment = indent line := h
    rw [indent_indent, words_indent, List.intercalate_nil, List.append_nil]
  · obtain ⟨n, word, taken, hwords, hindent, hseg, -⟩ := exists_words_of_mem_wrapLine hw h
    rw [indent, hindent, hwords, ← spread_eq_intercalate, ← append_spread, ← hseg]

theorem words_of_mem_wrapLine (h : segment ∈ wrapLine width line) (hnone : words segment = []) :
    words line = [] := by
  by_contra hw
  obtain ⟨n, word, taken, hwords, -⟩ := exists_words_of_mem_wrapLine hw h
  rw [hnone] at hwords
  cases hwords

theorem fits_of_mem_wrapLine (h : segment ∈ wrapLine width line) : Fits width segment := by
  by_cases hw : words line = []
  · rw [wrapLine_of_words_eq_nil hw, List.mem_singleton] at h
    obtain rfl : segment = indent line := h
    exact .inr (.inl (by simp [words_indent]))
  obtain ⟨n, word, taken, hwords, hindent, hseg, hf⟩ := exists_words_of_mem_wrapLine hw h
  cases taken using List.reverseRecOn with
  | nil => exact .inr (.inl (by simp [hwords]))
  | append_singleton taken last =>
      have hj := joins_of_fill_eq_singleton hf
      rw [joins, Bool.or_eq_true, Bool.or_eq_true, decide_eq_true_eq] at hj
      rcases hj with (hwidth | hstart) | hlast
      · left
        rw [hseg, spread_concat, Text.width_append, ← List.singleton_append, Text.width_append,
          ← Nat.add_assoc]
        exact hwidth
      · -- A run with nothing before or behind it is all that was there, so this word is the only other one.
        obtain rfl := isBareFence_spread hstart
        rw [spread_nil] at hstart
        obtain rfl : n = 0 := by
          by_contra hn
          obtain ⟨m, rfl⟩ := Nat.exists_eq_succ_of_ne_zero hn
          exact absurd hstart (by simp [isBareFence, List.replicate_succ, tick])
        exact .inr (.inr (.inr ⟨word, last, hwords, hstart, hindent⟩))
      · refine .inr (.inr (.inl ⟨last, ?_, hlast⟩))
        rw [hwords, ← List.cons_append, List.getLast?_concat]
        rfl

end

/-- Words that fill up one segment leave it as the open one for the words behind them. -/
theorem fill_append_of_eq_singleton {width : Nat} {start segment : Text} {taken : List Text}
    (h : fill width start taken = [segment]) (below : List Text) :
    fill width start (taken ++ below) = fill width segment below := by
  induction taken generalizing start with
  | nil =>
      rw [fill, List.singleton_inj] at h
      rw [List.nil_append, h]
  | cons word taken ih =>
      rw [fill] at h
      rw [List.cons_append, fill]
      split at h
      · next hj => rw [if_pos hj, ih h]
      · rw [List.cons.injEq] at h
        exact absurd h.2 (fill_ne_nil _ _ _)

theorem indent_eq_nil {line : Text} (h : line.head? ≠ some ' ') : indent line = [] := by
  cases line with
  | nil => rfl
  | cons c line => exact List.takeWhile_cons_of_neg (by simpa using h)

/-- Segments of which none takes along the first word of the next are filled again in the same way. -/
theorem fill_flatMap_words {width : Nat} {segment : Text} {rest : List Text}
    (hbreaks : (segment :: rest).IsChain (Breaks width))
    (hrest : ∀ s ∈ rest, s.head? ≠ some ' ' ∧ wrapLine width s = [s]) :
    fill width segment (rest.flatMap words) = segment :: rest := by
  induction rest generalizing segment with
  | nil => rfl
  | cons lower rest ih =>
      obtain ⟨⟨word, hword, hjoins⟩, hbreaks⟩ := List.isChain_cons_cons.1 hbreaks
      obtain ⟨⟨hhead, hstable⟩, hrest⟩ := List.forall_mem_cons.1 hrest
      obtain ⟨taken, hwords⟩ := List.head?_eq_some_iff.1 hword
      have hindent : lower.takeWhile (· == ' ') = [] := indent_eq_nil hhead
      rw [wrapLine_of_words_eq_cons hwords, hindent, List.nil_append] at hstable
      rw [List.flatMap_cons, hwords, List.cons_append, fill, joins_eq_false_iff.2 hjoins,
        if_neg Bool.false_ne_true, fill_append_of_eq_singleton hstable, ih hbreaks hrest]

/-- A line has no other greedy segments than those that wrapping gives. -/
theorem Greedy.eq_wrapLine {width : Nat} {line : Text} {segments : List Text}
    (h : Greedy width line segments) : segments = wrapLine width line := by
  obtain ⟨first, rest, rfl, hindent, hrest⟩ := h.indented
  have hstable := h.stable first List.mem_cons_self
  have hbelow : ∀ s ∈ rest, s.head? ≠ some ' ' ∧ wrapLine width s = [s] :=
    fun s hs => ⟨hrest s hs, h.stable s (List.mem_cons_of_mem _ hs)⟩
  have hsame := h.sameWords
  rw [List.flatMap_cons] at hsame
  have hfill := fill_flatMap_words h.maximal hbelow
  cases hw : words first with
  | nil =>
      have hnone := h.worded first List.mem_cons_self hw
      rw [hw, hnone, List.nil_append] at hsame
      rw [wrapLine_of_words_eq_nil hw, List.singleton_inj] at hstable
      rw [hsame, fill, eq_comm] at hfill
      rw [hfill, wrapLine_of_words_eq_nil hnone, ← hstable]
      exact congrArg (fun start => [start]) hindent
  | cons word taken =>
      rw [hw, List.cons_append] at hsame
      rw [wrapLine_of_words_eq_cons hw] at hstable
      have hline : line.takeWhile (· == ' ') = first.takeWhile (· == ' ') := hindent.symm
      rw [wrapLine_of_words_eq_cons hsame.symm, hline, fill_append_of_eq_singleton hstable, hfill]

/-- Wrapping gives the greedy segments of a line. -/
theorem greedy_wrapLine (width : Nat) (line : Text) : Greedy width line (wrapLine width line) where
  sameWords := flatMap_words_wrapLine width line
  indented := indented_wrapLine width line
  worded := fun _ h => words_of_mem_wrapLine h
  spaced := fun _ h => spaced_of_mem_wrapLine h
  fits := fun _ h => fits_of_mem_wrapLine h
  maximal := isChain_wrapLine width line
  whole := fun _ h hbare => (words_eq_of_isBareFence_of_mem_wrapLine h hbare).1
  stable := fun _ h => wrapLine_of_mem_wrapLine h

end SourceBook.Markdown
