import SourceBook.Markdown.Wrap
import SourceBook.Proofs.Text.Trim

namespace SourceBook.Markdown

theorem mem_words {line word : Text} (h : word ∈ words line) :
    word ≠ [] ∧ ' ' ∉ word ∧ ∀ c ∈ word, c ∈ line := by
  obtain ⟨hm, hne⟩ := List.mem_filter.1 h
  exact ⟨by simpa using hne, Text.mem_splitOn hm⟩

theorem words_append_space (a b : Text) : words (a ++ ' ' :: b) = words a ++ words b := by
  rw [words, List.splitOn_append_cons_self, List.filter_append, words, words]

theorem words_cons_space (line : Text) : words (' ' :: line) = words line := by
  rw [← List.nil_append (' ' :: line), words_append_space]
  rfl

theorem words_replicate_append (n : Nat) (line : Text) :
    words (List.replicate n ' ' ++ line) = words line := by
  induction n with
  | zero => rfl
  | succ n ih => rw [List.replicate_succ, List.cons_append, words_cons_space, ih]

theorem words_replicate_space (n : Nat) : words (List.replicate n ' ') = [] := by
  simpa [words] using words_replicate_append n []

theorem words_of_not_mem {word : Text} (hne : word ≠ []) (h : ' ' ∉ word) : words word = [word] := by
  rw [words, List.splitOn_eq_singleton h]
  simp [hne]

theorem flatMap_filter_words {p : Char → Bool} (h : p ' ' = false) (line : Text) :
    (words line).flatMap (List.filter p) = line.filter p := by
  rw [← Text.flatMap_filter_splitOn h, words]
  induction line.splitOn ' ' with
  | nil => rfl
  | cons word rest ih =>
      cases word with
      | nil => simpa using ih
      | cons c word => simpa using ih

theorem eq_space_of_words_eq_nil {line : Text} (h : words line = []) : ∀ c ∈ line, c = ' ' := by
  have hs := flatMap_filter_words (p := (· != ' ')) rfl line
  rw [h, List.flatMap_nil, eq_comm, List.filter_eq_nil_iff] at hs
  exact fun c hc => by simpa using hs c hc

/-- A line of one word that neither starts nor ends with a space is that word. -/
theorem eq_of_words_eq_singleton {line word : Text} (h : words line = [word])
    (hstart : line.head? ≠ some ' ') (hend : line.getLast? ≠ some ' ') : line = word := by
  by_cases hs : ' ' ∈ line
  · obtain ⟨a, b, rfl, ha⟩ := List.eq_append_cons_of_mem hs
    have hne : a ≠ [] := by
      rintro rfl
      exact hstart rfl
    rw [words_append_space, words_of_not_mem hne ha, List.singleton_append, List.cons.injEq] at h
    have hlast : (' ' :: b).getLast? = some ' ' := by
      rw [List.getLast?_eq_some_getLast (List.cons_ne_nil _ _), Option.some_inj]
      have hm := List.getLast_mem (List.cons_ne_nil ' ' b)
      rw [List.mem_cons] at hm
      exact hm.elim id (eq_space_of_words_eq_nil h.2 _)
    rw [List.getLast?_append_of_ne_nil _ (List.cons_ne_nil _ _)] at hend
    exact absurd hlast hend
  · have hne : line ≠ [] := by
      rintro rfl
      simp [words] at h
    rw [words_of_not_mem hne hs] at h
    exact List.cons.inj h |>.1

def spread (segment : Text) (taken : List Text) : Text := segment ++ taken.flatMap (' ' :: ·)

theorem spread_nil (segment : Text) : spread segment [] = segment := List.append_nil _

theorem spread_cons (segment word : Text) (taken : List Text) :
    spread segment (word :: taken) = spread (segment ++ ' ' :: word) taken := by
  simp [spread]

theorem words_spread {word : Text} {taken : List Text} (n : Nat) (hword : word ≠ [] ∧ ' ' ∉ word)
    (htaken : ∀ w ∈ taken, w ≠ [] ∧ ' ' ∉ w) :
    words (spread (List.replicate n ' ' ++ word) taken) = word :: taken := by
  rw [spread, List.append_assoc, words_replicate_append]
  induction taken generalizing word with
  | nil => rw [List.flatMap_nil, List.append_nil, words_of_not_mem hword.1 hword.2]
  | cons next taken ih =>
      rw [List.flatMap_cons, List.cons_append, words_append_space, words_of_not_mem hword.1 hword.2,
        ih (htaken next (by simp)) fun w hw => htaken w (by simp [hw])]
      rfl

/-- Filling starts a segment with the open one or with a word, takes words to it, and would fill the
same words into the same segment again. -/
theorem exists_spread_of_mem_fill {width : Nat} {segment s : Text} {ws : List Text}
    (h : s ∈ fill width segment ws) :
    ∃ start taken, (start = segment ∨ start ∈ ws) ∧ (∀ w ∈ taken, w ∈ ws) ∧ s = spread start taken ∧
      fill width start taken = [s] := by
  induction ws generalizing segment with
  | nil =>
      rw [fill, List.mem_singleton] at h
      exact ⟨segment, [], .inl rfl, by simp, by rw [h, spread_nil], by rw [h, fill]⟩
  | cons word ws ih =>
      rw [fill] at h
      split at h
      · next hj =>
          obtain ⟨start, taken, hstart, htaken, hs, hf⟩ := ih h
          rcases hstart with rfl | hstart
          · refine ⟨segment, word :: taken, .inl rfl, ?_, by rw [spread_cons, hs], ?_⟩
            · intro w hw
              rw [List.mem_cons] at hw ⊢
              exact hw.imp_right (htaken w)
            · rw [fill, if_pos hj, hf]
          · exact ⟨start, taken, .inr (by simp [hstart]), fun w hw => by simp [htaken w hw], hs, hf⟩
      · rw [List.mem_cons] at h
        rcases h with rfl | h
        · exact ⟨s, [], .inl rfl, by simp, (spread_nil s).symm, by rw [fill]⟩
        · obtain ⟨start, taken, hstart, htaken, hs, hf⟩ := ih h
          refine ⟨start, taken, .inr ?_, fun w hw => by simp [htaken w hw], hs, hf⟩
          rw [List.mem_cons]
          exact hstart

theorem fill_ne_nil (width : Nat) (segment : Text) (ws : List Text) : fill width segment ws ≠ [] := by
  induction ws generalizing segment with
  | nil => simp [fill]
  | cons word ws ih =>
      rw [fill]
      split
      · exact ih _
      · simp

theorem flatMap_filter_fill {p : Char → Bool} (h : p ' ' = false) (width : Nat) (segment : Text)
    (ws : List Text) :
    (fill width segment ws).flatMap (List.filter p) =
      segment.filter p ++ ws.flatMap (List.filter p) := by
  induction ws generalizing segment with
  | nil => simp [fill]
  | cons word ws ih =>
      rw [fill]
      split
      · rw [ih, List.filter_append, List.filter_cons_of_neg (by simp [h]), List.flatMap_cons,
          List.append_assoc]
      · rw [List.flatMap_cons, ih, List.flatMap_cons]

theorem isBareFence_append_space (a b : Text) : isBareFence (a ++ ' ' :: b) = false := by
  simp [isBareFence, tick]

/-- A segment is a bare run of backticks only if it is all there is to fill. -/
theorem eq_of_isBareFence_of_mem_fill {width : Nat} {segment s : Text} {ws : List Text}
    (h : s ∈ fill width segment ws) (hs : isBareFence s = true) : ws = [] ∧ s = segment := by
  induction ws generalizing segment with
  | nil => exact ⟨rfl, by simpa [fill] using h⟩
  | cons word ws ih =>
      rw [fill] at h
      split at h
      · rw [(ih h).2, isBareFence_append_space] at hs
        exact absurd hs (by decide)
      · next hj =>
          rw [Bool.not_eq_true, joins, Bool.or_eq_false_iff, Bool.or_eq_false_iff] at hj
          rw [List.mem_cons] at h
          rcases h with rfl | h
          · rw [hj.1.2] at hs
            exact absurd hs (by decide)
          · rw [(ih h).2, hj.2] at hs
            exact absurd hs (by decide)

theorem takeWhile_space_eq (line : Text) :
    line.takeWhile (· == ' ') = List.replicate (line.takeWhile (· == ' ')).length ' ' := by
  rw [List.eq_replicate_iff]
  exact ⟨rfl, fun c hc => by simpa using List.mem_takeWhile_imp hc⟩

theorem wrapLine_of_words_eq_nil {line : Text} (h : words line = []) (width : Nat) :
    wrapLine width line = [line.takeWhile (· == ' ')] := by
  rw [wrapLine, h]

theorem wrapLine_of_words_eq_cons {line word : Text} {rest : List Text} (h : words line = word :: rest)
    (width : Nat) :
    wrapLine width line = fill width (line.takeWhile (· == ' ') ++ word) rest := by
  rw [wrapLine, h]

theorem wrapLine_ne_nil (width : Nat) (line : Text) : wrapLine width line ≠ [] := by
  cases h : words line with
  | nil => simp [wrapLine_of_words_eq_nil h]
  | cons word rest =>
      rw [wrapLine_of_words_eq_cons h]
      exact fill_ne_nil _ _ _

section

variable {width : Nat} {line segment : Text}

/-- A segment is an indentation, a word, and more words of the line behind single spaces. Filling
these words again gives the segment back. -/
theorem exists_spread_of_mem_wrapLine (hw : words line ≠ []) (h : segment ∈ wrapLine width line) :
    ∃ n word taken, (∀ w ∈ word :: taken, w ∈ words line) ∧
      segment = spread (List.replicate n ' ' ++ word) taken ∧
      fill width (List.replicate n ' ' ++ word) taken = [segment] := by
  obtain ⟨first, rest, hs⟩ := List.exists_cons_of_ne_nil hw
  rw [wrapLine_of_words_eq_cons hs, takeWhile_space_eq] at h
  obtain ⟨start, taken, hstart, htaken, hseg, hf⟩ := exists_spread_of_mem_fill h
  rcases hstart with rfl | hstart
  · refine ⟨_, first, taken, ?_, hseg, hf⟩
    intro w hm
    rw [hs]
    rw [List.mem_cons] at hm ⊢
    exact hm.imp_right (htaken w)
  · refine ⟨0, start, taken, ?_, hseg, hf⟩
    intro w hm
    rw [hs]
    rw [List.mem_cons] at hm
    rcases hm with rfl | hm
    · exact List.mem_cons_of_mem _ hstart
    · exact List.mem_cons_of_mem _ (htaken w hm)

/-- The words of a segment and its indentation, with which it was filled. -/
theorem exists_words_of_mem_wrapLine (hw : words line ≠ []) (h : segment ∈ wrapLine width line) :
    ∃ n word taken, words segment = word :: taken ∧
      segment.takeWhile (· == ' ') = List.replicate n ' ' ∧
      segment = spread (List.replicate n ' ' ++ word) taken ∧
      fill width (List.replicate n ' ' ++ word) taken = [segment] := by
  obtain ⟨n, word, taken, hm, hseg, hf⟩ := exists_spread_of_mem_wrapLine hw h
  have hword (w : Text) (hw : w ∈ word :: taken) : w ≠ [] ∧ ' ' ∉ w :=
    ⟨(mem_words (hm w hw)).1, (mem_words (hm w hw)).2.1⟩
  refine ⟨n, word, taken, ?_, ?_, hseg, hf⟩
  · rw [hseg]
    exact words_spread n (hword word (by simp)) fun w hw => hword w (by simp [hw])
  · obtain ⟨hne, hs⟩ := hword word (by simp)
    obtain ⟨c, rest, rfl⟩ := List.exists_cons_of_ne_nil hne
    rw [List.mem_cons, not_or] at hs
    rw [hseg, spread, List.append_assoc, List.takeWhile_append_of_pos (by simp), List.cons_append,
      List.takeWhile_cons_of_neg (by simpa using Ne.symm hs.1), List.append_nil]

theorem wrapLine_of_mem_wrapLine (h : segment ∈ wrapLine width line) :
    wrapLine width segment = [segment] := by
  by_cases hw : words line = []
  · rw [wrapLine_of_words_eq_nil hw, List.mem_singleton, takeWhile_space_eq] at h
    rw [h, wrapLine_of_words_eq_nil (words_replicate_space _), List.takeWhile_replicate]
    simp
  · obtain ⟨n, word, taken, hwords, hindent, -, hf⟩ := exists_words_of_mem_wrapLine hw h
    rw [wrapLine_of_words_eq_cons hwords, hindent, hf]

theorem mem_of_mem_wrapLine {c : Char} (h : segment ∈ wrapLine width line) (hc : c ∈ segment) :
    c = ' ' ∨ c ∈ line := by
  by_cases hw : words line = []
  · rw [wrapLine_of_words_eq_nil hw, List.mem_singleton] at h
    rw [h] at hc
    exact .inr ((List.takeWhile_prefix _).subset hc)
  · obtain ⟨n, word, taken, hm, hseg, -⟩ := exists_spread_of_mem_wrapLine hw h
    rw [hseg, spread, List.mem_append, List.mem_append, List.mem_flatMap] at hc
    rcases hc with (hc | hc) | ⟨w, hwm, hc⟩
    · exact .inl (List.eq_of_mem_replicate hc)
    · exact .inr ((mem_words (hm word (by simp))).2.2 c hc)
    · rw [List.mem_cons] at hc
      exact hc.imp_right ((mem_words (hm w (by simp [hwm]))).2.2 c)

/-- No segment of a line with words is empty or ends in a space. -/
theorem getLast?_of_mem_wrapLine (hw : words line ≠ []) (h : segment ∈ wrapLine width line) :
    ∃ c, segment.getLast? = some c ∧ c ≠ ' ' := by
  obtain ⟨n, word, taken, hm, hseg, -⟩ := exists_spread_of_mem_wrapLine hw h
  have hlast (w : Text) (hw : w ∈ word :: taken) : ∃ c, w.getLast? = some c ∧ c ≠ ' ' := by
    obtain ⟨hne, hs, -⟩ := mem_words (hm w hw)
    refine ⟨w.getLast hne, List.getLast?_eq_some_getLast hne, ?_⟩
    rintro he
    exact hs (he ▸ List.getLast_mem hne)
  rw [hseg]
  cases taken using List.reverseRecOn with
  | nil =>
      obtain ⟨c, hc, hs⟩ := hlast word (by simp)
      exact ⟨c, by simp [spread_nil, List.getLast?_append, hc], hs⟩
  | append_singleton taken w =>
      obtain ⟨c, hc, hs⟩ := hlast w (by simp)
      refine ⟨c, ?_, hs⟩
      simp [spread, List.getLast?_append, List.getLast?_cons, hc]

theorem flatMap_filter_wrapLine {p : Char → Bool} (h : p ' ' = false) (width : Nat) (line : Text) :
    (wrapLine width line).flatMap (List.filter p) = line.filter p := by
  have hindent : (line.takeWhile (· == ' ')).filter p = [] := by
    rw [takeWhile_space_eq, List.filter_replicate]
    simp [h]
  rw [← flatMap_filter_words h line]
  cases hs : words line with
  | nil => simp [wrapLine_of_words_eq_nil hs, hindent]
  | cons word rest =>
      rw [wrapLine_of_words_eq_cons hs, flatMap_filter_fill h, List.filter_append, hindent,
        List.nil_append, List.flatMap_cons]

/-- A segment that is a bare run of backticks is the only word of the line, and no space stands in front
of it. -/
theorem words_eq_of_isBareFence_of_mem_wrapLine (h : segment ∈ wrapLine width line)
    (hs : isBareFence segment = true) :
    words line = [segment] ∧ line.takeWhile (· == ' ') = [] := by
  have htick (c : Char) (hc : c ∈ segment) : c = tick := by
    rw [isBareFence, Bool.and_eq_true, List.all_eq_true] at hs
    simpa using hs.2 c hc
  cases hw : words line with
  | nil =>
      rw [wrapLine_of_words_eq_nil hw, List.mem_singleton] at h
      cases segment with
      | nil => exact absurd hs (by decide)
      | cons c segment =>
          have hc := List.mem_takeWhile_imp (h ▸ List.mem_cons_self)
          rw [htick c (by simp)] at hc
          exact absurd hc (by decide)
  | cons word rest =>
      rw [wrapLine_of_words_eq_cons hw] at h
      obtain ⟨rfl, rfl⟩ := eq_of_isBareFence_of_mem_fill h hs
      have hindent : line.takeWhile (· == ' ') = [] := by
        rw [List.eq_nil_iff_forall_not_mem]
        intro c hc
        have hsp := List.mem_takeWhile_imp hc
        rw [htick c (List.mem_append_left _ hc)] at hsp
        exact absurd hsp (by decide)
      rw [hindent, List.nil_append]
      exact ⟨rfl, rfl⟩

/-- Such a segment is the whole line, if this ends in no space. -/
theorem eq_of_isBareFence_of_mem_wrapLine (hend : line.getLast? ≠ some ' ')
    (h : segment ∈ wrapLine width line) (hs : isBareFence segment = true) : segment = line := by
  obtain ⟨hw, hindent⟩ := words_eq_of_isBareFence_of_mem_wrapLine h hs
  refine (eq_of_words_eq_singleton hw (fun hstart => ?_) hend).symm
  obtain ⟨rest, rfl⟩ := List.head?_eq_some_iff.1 hstart
  simp at hindent

end

end SourceBook.Markdown
