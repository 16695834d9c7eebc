import SourceBook.Document.Listing
import SourceBook.Proofs.Markdown.LinePasses

namespace SourceBook.Document

open Markdown

def SameLeads (lines pieces : List Text) : Prop :=
  ∃ first rest piece others, lines = first :: rest ∧ pieces = piece :: others ∧
    leadTicks first = leadTicks piece ∧
    ∀ line ∈ rest, ∃ other ∈ others, leadTicks line = leadTicks other

theorem leadTicks_nil : leadTicks [] = 0 := rfl

theorem leadTicks_cons (c : Char) (line : Text) :
    leadTicks (c :: line) = if c = tick then leadTicks line + 1 else 0 := by
  by_cases hc : c = tick
  · simp [leadTicks, hc]
  · simp [leadTicks, hc]

section

variable {lines pieces : List Text} (h : SameLeads lines pieces)

include h

theorem SameLeads.exists {line : Text} (hl : line ∈ lines) :
    ∃ piece ∈ pieces, leadTicks line = leadTicks piece := by
  obtain ⟨first, rest, piece, others, rfl, rfl, hfirst, hrest⟩ := h
  rw [List.mem_cons] at hl
  rcases hl with rfl | hl
  · exact ⟨piece, by simp, hfirst⟩
  · obtain ⟨other, ho, he⟩ := hrest line hl
    exact ⟨other, by simp [ho], he⟩

theorem SameLeads.cons_nil : SameLeads ([] :: lines) ([] :: pieces) :=
  ⟨[], lines, [], pieces, rfl, rfl, rfl, fun _ hl => h.exists hl⟩

/-- A character that only ends a piece is not a backtick. -/
theorem SameLeads.cut {c : Char} (hc : c ≠ tick) :
    SameLeads (lines.modifyHead (c :: ·)) ([] :: pieces) := by
  obtain ⟨first, rest, piece, others, rfl, rfl, -, hrest⟩ := h
  refine ⟨c :: first, rest, [], piece :: others, rfl, rfl, ?_, fun line hl => ?_⟩
  · rw [leadTicks_cons, if_neg hc, leadTicks_nil]
  · obtain ⟨other, ho, he⟩ := hrest line hl
    exact ⟨other, by simp [ho], he⟩

theorem SameLeads.modifyHead (c : Char) :
    SameLeads (lines.modifyHead (c :: ·)) (pieces.modifyHead (c :: ·)) := by
  obtain ⟨first, rest, piece, others, rfl, rfl, hfirst, hrest⟩ := h
  exact ⟨c :: first, rest, c :: piece, others, rfl, rfl, by simp [leadTicks_cons, hfirst], hrest⟩

end

theorem isLineEnd_break : Text.isLineEnd '\n' = true := rfl

theorem isLineEnd_return : Text.isLineEnd '\r' = true := rfl

theorem ne_tick_of_isLineEnd {c : Char} (h : Text.isLineEnd c = true) : c ≠ tick := by
  rintro rfl
  exact absurd h (by decide)

theorem splitOnP_cons_of_isLineEnd {c : Char} (h : Text.isLineEnd c = true) (text : Text) :
    (c :: text).splitOnP Text.isLineEnd = [] :: text.splitOnP Text.isLineEnd := by
  rw [List.splitOnP_cons_eq_if_modifyHead, if_pos h]

theorem splitOnP_cons_of_not_isLineEnd {c : Char} (h : Text.isLineEnd c = false) (text : Text) :
    (c :: text).splitOnP Text.isLineEnd = (text.splitOnP Text.isLineEnd).modifyHead (c :: ·) := by
  rw [List.splitOnP_cons_eq_if_modifyHead, h, if_neg Bool.false_ne_true]

theorem sameLeads_cons_of_ne {c : Char} {text other : Text} (hc : c ≠ '\n')
    (h : SameLeads (Text.lines other) (text.splitOnP Text.isLineEnd)) :
    SameLeads (Text.lines (c :: other)) ((c :: text).splitOnP Text.isLineEnd) := by
  rw [Text.lines_cons_of_ne hc]
  cases he : Text.isLineEnd c with
  | true =>
      rw [splitOnP_cons_of_isLineEnd he]
      exact h.cut (ne_tick_of_isLineEnd he)
  | false =>
      rw [splitOnP_cons_of_not_isLineEnd he]
      exact h.modifyHead c

theorem sameLeads_lines (text : Text) :
    SameLeads (Text.lines text) (text.splitOnP Text.isLineEnd) := by
  induction text with
  | nil => exact ⟨[], [], [], [], rfl, rfl, rfl, by simp⟩
  | cons c text ih =>
      by_cases hc : c = '\n'
      · subst hc
        rw [Text.lines_cons_break, splitOnP_cons_of_isLineEnd isLineEnd_break]
        exact ih.cons_nil
      · exact sameLeads_cons_of_ne hc ih

/-- A carriage return and a line feed make two pieces, but one line break. -/
theorem sameLeads_unifyFrom (before : Char) (text : Text)
    (h : before = '\r' → text.head? ≠ some '\n') :
    SameLeads (Text.lines (Text.unifyFrom before text)) (text.splitOnP Text.isLineEnd) := by
  induction text generalizing before with
  | nil => exact ⟨[], [], [], [], rfl, rfl, rfl, by simp⟩
  | cons c text ih =>
      rw [Text.unifyFrom_cons]
      by_cases hr : c = '\r'
      · subst hr
        rw [if_pos rfl, List.singleton_append, Text.lines_cons_break,
          splitOnP_cons_of_isLineEnd isLineEnd_return]
        by_cases hn : text.head? = some '\n'
        · -- the line feed adds an empty piece in front of those of the lines below
          obtain ⟨rest, rfl⟩ := List.head?_eq_some_iff.1 hn
          have hrest := ih '\n' nofun
          rw [Text.unifyFrom_cons, if_neg (by decide), if_neg (by simp), List.singleton_append,
            Text.lines_cons_break] at hrest
          rw [Text.unifyFrom_cons, if_neg (by decide), if_pos ⟨rfl, rfl⟩, List.nil_append]
          exact ⟨[], _, [], _, rfl, rfl, rfl, fun line hl => hrest.exists (by simp [hl])⟩
        · exact (ih '\r' fun _ => hn).cons_nil
      · have hpair : ¬ (c = '\n' ∧ before = '\r') := by
          rintro ⟨rfl, hb⟩
          exact h hb rfl
        rw [if_neg hr, if_neg hpair, List.singleton_append]
        have hrest := ih c fun hc => absurd hc hr
        by_cases hc : c = '\n'
        · subst hc
          rw [Text.lines_cons_break, splitOnP_cons_of_isLineEnd isLineEnd_break]
          exact hrest.cons_nil
        · exact sameLeads_cons_of_ne hc hrest

theorem leadTicks_cleanLine_le (line : Text) : leadTicks (cleanLine line) ≤ leadTicks line := by
  have htrim (text : Text) : leadTicks (Text.trimEnd text) ≤ leadTicks text := by
    induction text with
    | nil => exact Nat.le_refl _
    | cons c text ih =>
        rw [Text.trimEnd_cons]
        split
        · exact Nat.zero_le _
        · rw [leadTicks_cons, leadTicks_cons]
          split <;> omega
  refine (htrim _).trans ?_
  induction line with
  | nil => exact Nat.le_refl _
  | cons c line ih =>
      rw [Text.replaceChar, List.flatMap_cons]
      by_cases hc : c = '\t'
      · simp [hc, List.replicate_succ, leadTicks_cons, tick]
      · rw [if_neg hc, List.singleton_append, leadTicks_cons, leadTicks_cons]
        rw [Text.replaceChar] at ih
        split <;> omega

theorem le_foldl_max (ns : List Nat) (m : Nat) :
    m ≤ ns.foldl max m ∧ ∀ n ∈ ns, n ≤ ns.foldl max m := by
  induction ns generalizing m with
  | nil => simp
  | cons k ns ih =>
      obtain ⟨hm, hns⟩ := ih (max m k)
      rw [List.foldl_cons]
      refine ⟨(Nat.le_max_left m k).trans hm, fun n hn => ?_⟩
      rw [List.mem_cons] at hn
      rcases hn with rfl | hn
      · exact (Nat.le_max_right m n).trans hm
      · exact hns n hn

theorem leadTicks_le_startTicks (line : Text) : leadTicks line ≤ startTicks line := by
  cases line with
  | nil => exact Nat.le_refl _
  | cons c line =>
      by_cases hc : c = tick
      · subst hc
        simp [startTicks, leadTicks, tick]
      · rw [leadTicks_cons, if_neg hc]
        exact Nat.zero_le _

theorem three_le_fenceLength (content : Text) : 3 ≤ fenceLength content := Nat.le_max_left _ _

theorem leadTicks_lt_fenceLength {content piece : Text}
    (h : piece ∈ content.splitOnP Text.isLineEnd) : leadTicks piece < fenceLength content := by
  have hmax := (le_foldl_max _ 0).2 _ (List.mem_map_of_mem (f := startTicks) h)
  have hlead := leadTicks_le_startTicks piece
  have hlen : _ ≤ fenceLength content := Nat.le_max_right 3 _
  omega

theorem closes_of_leadTicks_lt {n : Nat} {line : Text} (h : leadTicks line < n) :
    closes n line = false := by
  by_contra hc
  rw [Bool.not_eq_false] at hc
  have := (leadTicks_of_closes hc).2.1
  omega

theorem fenceLength_append_break (content : Text) :
    fenceLength (content ++ ['\n']) = fenceLength content := by
  have hpieces : (content ++ ['\n']).splitOnP Text.isLineEnd = content.splitOnP Text.isLineEnd ++ [[]] :=
    List.splitOnP_append_cons content [] isLineEnd_break
  rw [fenceLength, fenceLength, hpieces, List.map_append, List.foldl_append]
  simp [startTicks]

theorem closes_fenceLength {content line : Text} (h : line ∈ Text.lines content) :
    closes (fenceLength content) line = false := by
  obtain ⟨piece, hp, he⟩ := (sameLeads_lines content).exists h
  apply closes_of_leadTicks_lt
  rw [he]
  exact leadTicks_lt_fenceLength hp

/-- Cleaning up the blanks of the code makes carriage returns line breaks and tabs spaces. None of the
lines that come out of it closes the fence either. -/
theorem closes_fenceLength_cleanBlanks {content line : Text}
    (h : line ∈ Text.lines (cleanBlanks content)) : closes (fenceLength content) line = false := by
  rw [lines_cleanBlanks, List.mem_map] at h
  obtain ⟨source, hs, rfl⟩ := h
  obtain ⟨piece, hp, he⟩ := (sameLeads_unifyFrom ' ' content nofun).exists hs
  have hclean := leadTicks_cleanLine_le source
  have hpiece := leadTicks_lt_fenceLength hp
  apply closes_of_leadTicks_lt
  omega

section

variable {n : Nat} {rest : Text} (hn : 3 ≤ n)
  (hrest : ∀ c ∈ rest, c ≠ tick ∧ Text.isLineEnd c = false)

include hn hrest

theorem fenceMark?_replicate_append :
    fenceMark? (List.replicate n tick ++ rest) = some (n, rest) := by
  have hhead : rest.takeWhile (· == tick) = [] ∧ rest.dropWhile (· == tick) = rest := by
    cases rest with
    | nil => simp
    | cons c rest => simp [(hrest c (by simp)).1]
  rw [fenceMark?, List.takeWhile_append_of_pos (by simp), List.dropWhile_append_of_pos (by simp),
    hhead.1, hhead.2, List.append_nil, List.length_replicate, if_pos]
  simpa [hn] using fun c hc => (hrest c hc).2

theorem opens?_replicate_append : opens? (List.replicate n tick ++ rest) = some n := by
  rw [opens?, fenceMark?_replicate_append hn hrest]
  simpa using fun hc => (hrest tick hc).1 rfl

end

theorem closes_replicate {n : Nat} (hn : 3 ≤ n) : closes n (List.replicate n tick) = true := by
  have h : fenceMark? (List.replicate n tick ++ []) = some (n, []) :=
    fenceMark?_replicate_append hn (by simp)
  rw [List.append_nil] at h
  simp [closes, h, Text.allBlank]

theorem visible_of_mem_language {extension : Text} {c : Char} (h : c ∈ language extension) :
    c ≠ tick ∧ Text.isBlank c = false := by
  have hnames : ∀ name ∈ "text".toList :: languages.map Prod.snd,
      (name.all fun c => c != tick && !Text.isBlank c) = true := by
    decide +kernel
  have hname : language extension ∈ "text".toList :: languages.map Prod.snd := by
    rw [language]
    cases hl : languages.lookup (Comment.normalExtension extension) with
    | none => exact List.mem_cons_self
    | some name =>
        obtain ⟨above, below, ht, -⟩ := List.lookup_eq_some_iff.1 hl
        simp [ht]
  simpa using List.all_eq_true.1 (hnames _ hname) c h

theorem opens?_fence (content extension : Text) :
    opens? (fence content ++ language extension) = some (fenceLength content) := by
  apply opens?_replicate_append (three_le_fenceLength content)
  intro c hc
  obtain ⟨htick, hblank⟩ := visible_of_mem_language hc
  exact ⟨htick, Text.isLineEnd_of_visible hblank⟩

theorem visible_of_mem_fence {content : Text} {c : Char} (h : c ∈ fence content) :
    Text.isBlank c = false := by
  rw [List.eq_of_mem_replicate h]
  rfl

theorem visible_of_mem_opening {content extension : Text} {c : Char}
    (h : c ∈ fence content ++ language extension) : Text.isBlank c = false := by
  rw [List.mem_append] at h
  rcases h with h | h
  · exact visible_of_mem_fence h
  · exact (visible_of_mem_language h).2

theorem fence_ne_nil (content : Text) : fence content ≠ [] := by
  intro h
  have hlen := congrArg List.length h
  have hthree := three_le_fenceLength content
  rw [fence, List.length_replicate, List.length_nil] at hlen
  omega

theorem closes_fence (content : Text) : closes (fenceLength content) (fence content) = true :=
  closes_replicate (three_le_fenceLength content)

end SourceBook.Document
