import SourceBook.Proofs.Comment.Literals

namespace SourceBook.Comment.Python

theorem advance_append {next : Text} (hn : ∀ c ∈ next.head?, c ≠ '"' ∧ c ≠ '\'') (quote : Quote)
    (copy : Nat) (c : Char) (rest : Text) :
    advance quote copy c (rest ++ next) = advance quote copy c rest := by
  have hmark (quote : Quote) (line : Text) :
      Text.startsWith (delimiter quote) (line ++ next) = Text.startsWith (delimiter quote) line := by
    apply Text.startsWith_append_of_head?
    intro d hd hmem
    obtain ⟨hdouble, hsingle⟩ := hn d hd
    cases quote <;> simp [delimiter, hdouble, hsingle] at hmem
  have hopening : opening (c :: (rest ++ next)) = opening (c :: rest) := by
    simp only [opening, ← List.cons_append, hmark]
  cases copy with
  | succ copy => cases quote <;> rfl
  | zero =>
      cases quote with
      | none => rw [advance, advance, hopening]
      | single | double | tripleSingle | tripleDouble =>
          simp only [advance, ← List.cons_append, hmark]

/-- A text that is kept in front of something else is kept by itself. -/
theorem exists_scan_of_append {next : Text} (hn : ∀ c ∈ next.head?, c ≠ '"' ∧ c ≠ '\'') (quote : Quote)
    (copy : Nat) (kept text tail : Text)
    (h : (scan quote copy kept (text ++ next)).1 = kept.reverse ++ text ++ tail) :
    ∃ quote' copy', scan quote copy kept text = (kept.reverse ++ text, quote') ∧
      scan quote copy kept (text ++ next) = scan quote' copy' (text.reverse ++ kept) next := by
  induction text generalizing quote copy kept with
  | nil => exact ⟨quote, copy, by simp [scan], rfl⟩
  | cons c rest ih =>
      rw [List.cons_append, scan_cons, advance_append hn] at h
      rw [List.cons_append, scan_cons, scan_cons, advance_append hn]
      cases hadvance : advance quote copy c rest with
      | none =>
          rw [hadvance] at h
          simp at h
      | some state =>
          rw [hadvance] at h
          obtain ⟨quote', copy', hown, hwhole⟩ := ih state.1 state.2 (c :: kept) (by simpa using h)
          exact ⟨quote', copy', by simpa using hown, by simpa using hwhole⟩

/-- What stands in front of the comment of a line is kept, and leaves the same literal open. -/
theorem scan_scan (quote : Quote) (line : Text) :
    scan quote 0 [] (scan quote 0 [] line).1 = scan quote 0 [] line := by
  obtain ⟨text, tail, rfl, htail, htext⟩ := exists_scan quote 0 [] line
  have hn : ∀ c ∈ tail.head?, c ≠ '"' ∧ c ≠ '\'' := fun c hc => by simp [htail c hc]
  obtain ⟨quote', copy', hown, hwhole⟩ := exists_scan_of_append hn quote 0 [] text [] (by simpa using htext)
  rw [List.reverse_nil, List.nil_append] at htext
  rw [htext, hown, hwhole]
  rw [hwhole] at htext
  cases tail with
  | nil => simp [scan]
  | cons c tail =>
      rw [scan_cons] at htext ⊢
      cases hadvance : advance quote' copy' c tail with
      | none => simp [(of_advance_eq_none hadvance).1]
      | some state =>
          -- A line that goes on keeps more than the text.
          obtain ⟨more, -, -, -, hmore⟩ := exists_scan state.1 state.2 (c :: (text.reverse ++ [])) tail
          rw [hadvance] at htext
          simp only [hmore] at htext
          simp at htext

theorem advance_of_isBlank {c : Char} (h : Text.isBlank c = true) (quote : Quote) (copy : Nat) (rest : Text) :
    advance quote copy c rest = some (quote, copy - 1) := by
  have hdouble : c ≠ '"' := Text.ne_of_isBlank h rfl
  have hsingle : c ≠ '\'' := Text.ne_of_isBlank h rfl
  cases copy with
  | succ copy => cases quote <;> rfl
  | zero =>
      cases quote with
      | none =>
          have hsign : c ≠ '#' := Text.ne_of_isBlank h rfl
          simp [advance_code, hdouble, hsingle, hsign]
      | single | double | tripleSingle | tripleDouble =>
          have hslash : c ≠ '\\' := Text.ne_of_isBlank h rfl
          simp [advance, delimiter, Text.startsWith, Text.after?, hslash, hdouble.symm, hsingle.symm]

theorem scan_of_blank {blank : Text} (hb : ∀ c ∈ blank, Text.isBlank c = true) (quote : Quote) (copy : Nat)
    (kept : Text) : (scan quote copy kept blank).2 = quote := by
  induction blank generalizing copy kept with
  | nil => rw [scan]
  | cons c rest ih =>
      obtain ⟨hc, hrest⟩ := List.forall_mem_cons.1 hb
      rw [scan_cons, advance_of_isBlank hc]
      exact ih hrest _ _

/-- The blanks at the end of what is kept hide neither an open literal nor the end of one. -/
theorem scan_trimEnd (quote : Quote) (line : Text) :
    scan quote 0 [] (Text.trimEnd (scan quote 0 [] line).1) =
      (Text.trimEnd (scan quote 0 [] line).1, (scan quote 0 [] line).2) := by
  have hkept := scan_scan quote line
  generalize scan quote 0 [] line = kept at hkept ⊢
  obtain ⟨text, ending⟩ := kept
  simp only at hkept ⊢
  obtain ⟨blank, htext, hblank⟩ := Text.exists_eq_trimEnd_append text
  have hn : ∀ c ∈ blank.head?, c ≠ '"' ∧ c ≠ '\'' := by
    intro c hc
    have hc := hblank c (List.mem_of_mem_head? hc)
    exact ⟨Text.ne_of_isBlank hc rfl, Text.ne_of_isBlank hc rfl⟩
  obtain ⟨quote', copy', hown, hwhole⟩ :=
    exists_scan_of_append hn quote 0 [] (Text.trimEnd text) blank (by rw [← htext, hkept]; simpa using htext)
  rw [← htext, hkept] at hwhole
  have hending := scan_of_blank hblank quote' copy' ((Text.trimEnd text).reverse ++ [])
  rw [← hwhole] at hending
  rw [hown, ← hending]
  rfl

theorem lexLine_lexLine (line : Text) (state : State) :
    lexLine (lexLine line state).text state = lexLine line state := by
  cases hspans : (carried (scan (carried state.quote) 0 [] line).2).spansLines with
  | true => simp only [lexLine, finish, hspans, if_true, scan_scan]
  | false => simp [lexLine, finish, hspans, scan_trimEnd, Text.trimEnd_trimEnd]

theorem ne_comment_of_code_eq_text {r : ReadLine} (h : r.code = r.text) :
    ∀ entry ∈ r.chars, entry.2 ≠ .comment := by
  have hlength := congrArg List.length h
  rw [ReadLine.code, ReadLine.text, List.length_map, List.length_map] at hlength
  have hprefix : r.chars.takeWhile (fun entry => entry.2 ≠ .comment) <+: r.chars := List.takeWhile_prefix _
  have hall := hprefix.eq_of_length hlength
  exact fun entry he => of_decide_eq_true (List.takeWhile_eq_self_iff.1 hall entry he)

theorem Reads.ne_comment_of_stripped {place : Place} {line : Text} {r : ReadLine} (h : Reads place line r)
    (hs : r.stripped = r.text) : ∀ entry ∈ r.chars, entry.2 ≠ .comment := by
  apply ne_comment_of_code_eq_text
  rw [ReadLine.stripped] at hs
  split_ifs at hs with hlong
  · exact h.code_eq_text fun he => by simp [he, Place.isLong] at hlong
  · have hcode : r.code <+: r.text := (List.takeWhile_prefix _).map _
    apply hcode.eq_of_length_le
    rw [← hs]
    exact (Text.trimEnd_isPrefix r.code).length_le

end SourceBook.Comment.Python
