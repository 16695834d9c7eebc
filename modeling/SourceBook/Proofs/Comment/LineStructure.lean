import SourceBook.Comment.Strip
import SourceBook.Proofs.Comment.Steps
import SourceBook.Proofs.Text.Joined

namespace SourceBook.Comment

def LineLexer.run (lexer : LineLexer) : State → List Text → List Text
  | _, [] => []
  | state, line :: rest => (lexer line state).text :: lexer.run (lexer line state).state rest

section

variable (lexer : LineLexer) (state : State)

theorem lexLines_total (lines : List Text) :
    lexLines lexer.total state lines = .ok (lexer.run state lines) := by
  induction lines generalizing state with
  | nil => rfl
  | cons line rest ih =>
      have hrest := ih (lexer line state).state
      simp only [lexLines, LineLexer.total, LineLexer.run, bind, Except.bind, pure, Except.pure] at hrest ⊢
      rw [hrest]

theorem length_run (lines : List Text) : (lexer.run state lines).length = lines.length := by
  induction lines generalizing state with
  | nil => rfl
  | cons line rest ih => rw [LineLexer.run, List.length_cons, List.length_cons, ih]

theorem run_ne_nil {lines : List Text} (h : lines ≠ []) : lexer.run state lines ≠ [] := by
  rw [← List.length_pos_iff, length_run]
  exact List.length_pos_iff.2 h

theorem run_take (lines : List Text) (n : Nat) :
    lexer.run state (lines.take n) = (lexer.run state lines).take n := by
  induction lines generalizing state n with
  | nil => rw [List.take_nil, LineLexer.run, List.take_nil]
  | cons line rest ih =>
      cases n with
      | zero => rfl
      | succ n => rw [List.take_succ_cons, LineLexer.run, LineLexer.run, List.take_succ_cons, ih]

end

theorem LineLexer.run_run {lexer : LineLexer}
    (h : ∀ line state, lexer (lexer line state).text state = lexer line state) (state : State)
    (lines : List Text) : lexer.run state (lexer.run state lines) = lexer.run state lines := by
  induction lines generalizing state with
  | nil => rfl
  | cons line rest ih => rw [run, run, h, ih]

theorem finish_sublist (text : Text) (state : State) : (finish text state).text.Sublist text := by
  rw [finish]
  split_ifs
  · exact List.Sublist.refl text
  · exact (Text.trimEnd_isPrefix text).sublist

theorem Rules.lexLine_sublist (rules : Rules) (line : Text) (state : State) :
    (rules.lexLine line state).text.Sublist line :=
  (finish_sublist _ _).trans (rules.scan_sublist _ 0 [] line)

theorem powerShellLine_sublist (line : Text) (state : State) :
    (powerShellLine line state).text.Sublist line := by
  rw [powerShellLine]
  split_ifs
  · exact List.nil_sublist line
  · exact powerShell.lexLine_sublist line state

theorem Python.lexLine_sublist (line : Text) (state : State) :
    (Python.lexLine line state).text.Sublist line := by
  obtain ⟨text, tail, rfl, -, htext⟩ := Python.exists_scan (Python.carried state.quote) 0 [] line
  apply (finish_sublist _ _).trans
  rw [htext]
  exact List.sublist_append_left text tail

theorem lexer_sublist {grammar : Grammar} {lexer : LineLexer} (h : grammar.lexer? = some lexer)
    (line : Text) (state : State) : (lexer line state).text.Sublist line := by
  cases grammar with
  | plain => exact absurd h (by simp [Grammar.lexer?])
  | powerShell => cases h; exact powerShellLine_sublist line state
  | python => cases h; exact Python.lexLine_sublist line state
  | curly | markup | sql => cases h; exact Rules.lexLine_sublist _ line state

section

variable {grammar : Grammar} {lexer : LineLexer} (h : grammar.lexer? = some lexer)

include h

theorem forall₂_run (state : State) (lines : List Text) :
    List.Forall₂ List.Sublist (lexer.run state lines) lines := by
  induction lines generalizing state with
  | nil => exact .nil
  | cons line rest ih => exact .cons (lexer_sublist h line state) (ih _)

theorem unbroken_of_mem_run {state : State} {lines : List Text}
    (hl : ∀ line ∈ lines, Text.Unbroken line) : ∀ text ∈ lexer.run state lines, Text.Unbroken text := by
  induction lines generalizing state with
  | nil => exact List.forall_mem_nil _
  | cons line rest ih =>
      obtain ⟨hline, hrest⟩ := List.forall_mem_cons.1 hl
      refine List.forall_mem_cons.2 ⟨fun c hc => ?_, ih hrest⟩
      exact hline c ((lexer_sublist h line state).subset hc)

end

section

variable {extension : Text} {lexer : LineLexer}
  (h : (Grammar.ofExtension extension).lexer? = some lexer)

include h

theorem strip_eq (content : Text) :
    strip content extension =
      ⟨(Text.firstBreak content).intercalate (lexer.run State.fresh (Text.breakLines content)),
        Grammar.ofExtension extension, none⟩ := by
  simp only [strip, stripBy, standardLexers, h, Option.map_some, stripWith, lexLines_total, Except.map]

theorem unbroken_run_breakLines (state : State) (content : Text) :
    ∀ text ∈ lexer.run state (Text.breakLines content), Text.Unbroken text :=
  unbroken_of_mem_run h fun _ => Text.unbroken_of_mem_breakLines

theorem breakLines_strip (content : Text) :
    Text.breakLines (strip content extension).content =
      lexer.run State.fresh (Text.breakLines content) := by
  rw [strip_eq h]
  exact Text.breakLines_intercalate (Text.firstBreak_mem_endings content)
    (unbroken_run_breakLines h _ content) (run_ne_nil lexer _ (Text.breakLines_ne_nil content))

theorem head?_breaks_of_mem_strip {content ending : Text}
    (he : ending ∈ Text.breaks (strip content extension).content) :
    (Text.breaks content).head? = some ending := by
  rw [strip_eq h, Text.breaks_intercalate (Text.firstBreak_mem_endings content)
    (unbroken_run_breakLines h _ content), length_run, List.mem_replicate] at he
  obtain ⟨hlength, rfl⟩ := he
  exact Text.head?_breaks (by omega)

theorem content_strip_take (content : Text) (n : Nat) :
    (strip ((Text.firstBreak content).intercalate ((Text.breakLines content).take n)) extension).content =
      (Text.firstBreak content).intercalate
        ((Text.breakLines (strip content extension).content).take n) := by
  have hending := Text.firstBreak_mem_endings content
  have hlines : ∀ line ∈ (Text.breakLines content).take n, Text.Unbroken line :=
    fun line hl => Text.unbroken_of_mem_breakLines (List.mem_of_mem_take hl)
  rw [breakLines_strip h, ← run_take, strip_eq h]
  cases n with
  | zero =>
      -- No line at all is read as one empty line.
      have hempty : (lexer [] State.fresh).text = [] := List.sublist_nil.1 (lexer_sublist h [] State.fresh)
      rw [List.take_zero, List.intercalate_nil, Text.breakLines, Text.unifyBreaks_eq_unifyFrom,
        Text.unifyFrom_nil, Text.lines_nil]
      simp [LineLexer.run, hempty]
  | succ n =>
      have hne : (Text.breakLines content).take (n + 1) ≠ [] := by
        simpa using Text.breakLines_ne_nil content
      rw [Text.breakLines_intercalate hending hlines hne]
      exact Text.intercalate_firstBreak_intercalate hending hlines (length_run ..)

end

theorem exists_lexer {grammar : Grammar} (h : grammar ≠ .plain) : ∃ lexer, grammar.lexer? = some lexer := by
  cases grammar with
  | plain => exact absurd rfl h
  | powerShell | curly | markup | sql | python => exact ⟨_, rfl⟩

/-- Stripping does not fail and keeps the lines of a file: there are as many as before, each has lost
nothing but characters, all are ended by the break that the file has first, and the first lines hang on
the first lines of the file alone, which give the same when they are stripped by themselves. -/
theorem strip_keeps_lines {extension : Text} (h : Grammar.ofExtension extension ≠ .plain) (content : Text) :
    (strip content extension).warning = none ∧
      List.Forall₂ List.Sublist (Text.breakLines (strip content extension).content)
        (Text.breakLines content) ∧
      (∀ ending ∈ Text.breaks (strip content extension).content,
        (Text.breaks content).head? = some ending) ∧
      (∀ other n, (Text.breakLines other).take n = (Text.breakLines content).take n →
        (Text.breakLines (strip other extension).content).take n =
          (Text.breakLines (strip content extension).content).take n) ∧
      ∀ n, (strip ((Text.firstBreak content).intercalate ((Text.breakLines content).take n))
          extension).content =
        (Text.firstBreak content).intercalate
          ((Text.breakLines (strip content extension).content).take n) := by
  obtain ⟨lexer, hlexer⟩ := exists_lexer h
  refine ⟨?_, ?_, fun ending he => head?_breaks_of_mem_strip hlexer he, ?_, content_strip_take hlexer content⟩
  · rw [strip_eq hlexer]
  · rw [breakLines_strip hlexer]
    exact forall₂_run hlexer State.fresh _
  · intro other n hlines
    rw [breakLines_strip hlexer, breakLines_strip hlexer, ← run_take, ← run_take, hlines]

theorem strip_keeps_lines_mixed :
    Grammar.ofExtension ".sql".toList ≠ .plain ∧
      Text.breakLines (strip "a -- b\r\n/* c\n*/ d".toList ".sql".toList).content =
        ["a".toList, [], " d".toList] ∧
      (strip "a -- b\r\n/* c".toList ".sql".toList).content = "a\r\n".toList := by
  have hgrammar : Grammar.ofExtension ".sql".toList ≠ .plain := by decide
  obtain ⟨-, -, -, -, hfirst⟩ := strip_keeps_lines hgrammar "a -- b\r\n/* c\n*/ d".toList
  have hlines : Text.breakLines (strip "a -- b\r\n/* c\n*/ d".toList ".sql".toList).content =
      ["a".toList, [], " d".toList] := by decide
  have htwo := hfirst 2
  rw [hlines] at htwo
  exact ⟨hgrammar, hlines, htwo⟩

end SourceBook.Comment
