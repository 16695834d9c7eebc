import SourceBook.Proofs.Comment.LineStructure
import SourceBook.Proofs.Comment.KeptAgain
import SourceBook.Proofs.Comment.NeverJoined

namespace SourceBook.Comment

theorem strip_strip_iff_run {extension : Text} {lexer : LineLexer}
    (h : (Grammar.ofExtension extension).lexer? = some lexer) (content : Text) :
    strip (strip content extension).content extension = strip content extension ↔
      lexer.run State.fresh (lexer.run State.fresh (Text.breakLines content)) =
        lexer.run State.fresh (Text.breakLines content) := by
  have hlines := breakLines_strip h content
  constructor
  · intro hsame
    rw [← hlines, ← breakLines_strip h, hsame]
  · intro hsame
    have hending := Text.intercalate_firstBreak_intercalate (Text.firstBreak_mem_endings content)
      (unbroken_run_breakLines h State.fresh content) rfl
    rw [strip_eq h (strip content extension).content, hlines, hsame, strip_eq h content, hending]

namespace Rules

variable (rules : Rules)

-- Only whether a block comment is open passes from line to line.
def fileRuns : (inBlock : Bool) → List Text → List (List Text)
  | _, [] => []
  | inBlock, line :: rest =>
    rules.runs (if inBlock then .block else .code) 0 [] [] line ::
      fileRuns (rules.lexLine line ⟨inBlock, .none⟩).state.inBlock rest

theorem text_lexLine (line : Text) (inBlock : Bool) :
    (rules.lexLine line ⟨inBlock, .none⟩).text =
      Text.trimEnd (rules.runs (if inBlock then .block else .code) 0 [] [] line).flatten := by
  rw [flatten_runs]
  rfl

theorem exists_of_mem_fileRuns {inBlock : Bool} {lines runs : List Text}
    (h : runs ∈ rules.fileRuns inBlock lines) :
    ∃ mode line, mode.outside = .code ∧ runs = rules.runs mode 0 [] [] line := by
  induction lines generalizing inBlock with
  | nil => exact absurd h List.not_mem_nil
  | cons line rest ih =>
      rw [fileRuns, List.mem_cons] at h
      rcases h with rfl | h
      · exact ⟨if inBlock then .block else .code, line, by cases inBlock <;> rfl, rfl⟩
      · exact ih h

theorem unmarked_iff_text_lexLine {text : Text} (ht : Text.trimEnd text = text) :
    rules.Unmarked .code [] text ↔ (rules.lexLine text ⟨false, .none⟩).text = text := by
  have hlexed : (rules.lexLine text ⟨false, .none⟩).text =
      Text.trimEnd (rules.scan .code 0 [] [] text).1 := rfl
  rw [hlexed]
  constructor
  · intro hu
    rw [scan_of_unmarked (by simp) hu, ht]
  · intro hsame
    apply unmarked_of_scan (by simp)
    have hle := (Text.trimEnd_isPrefix (rules.scan .code 0 [] [] text).1).length_le
    rw [hsame] at hle
    exact (rules.scan_sublist .code 0 [] text).eq_of_length_le hle

theorem state_lexLine_of_unmarked {text : Text} (h : rules.Unmarked .code [] text) :
    (rules.lexLine text ⟨false, .none⟩).state = ⟨false, .none⟩ := by
  have hafter : rules.after .code text ≠ .block := after_ne_block (by simp) text
  simp [lexLine, scan_of_unmarked (by simp) h, finish, hafter]

section

variable {rules} {lexer : LineLexer}
  (hlexer : ∀ line inBlock, lexer line ⟨inBlock, .none⟩ = rules.lexLine line ⟨inBlock, .none⟩)

include hlexer

theorem run_eq_map_fileRuns (inBlock : Bool) (lines : List Text) :
    lexer.run ⟨inBlock, .none⟩ lines =
      (rules.fileRuns inBlock lines).map fun runs => Text.trimEnd runs.flatten := by
  induction lines generalizing inBlock with
  | nil => rfl
  | cons line rest ih =>
      rw [LineLexer.run, fileRuns, List.map_cons, hlexer, text_lexLine, ← ih]
      rfl

/-- A file of trimmed lines stays as it is exactly if no comment starts on any of them. -/
theorem run_eq_self_iff {lines : List Text} (ht : ∀ line ∈ lines, Text.trimEnd line = line) :
    lexer.run ⟨false, .none⟩ lines = lines ↔ ∀ line ∈ lines, rules.Unmarked .code [] line := by
  induction lines with
  | nil => simp [LineLexer.run]
  | cons line rest ih =>
      obtain ⟨hline, hrest⟩ := List.forall_mem_cons.1 ht
      rw [LineLexer.run, List.cons_eq_cons, List.forall_mem_cons, hlexer,
        ← unmarked_iff_text_lexLine rules hline]
      refine and_congr_right fun hu => ?_
      rw [state_lexLine_of_unmarked rules hu]
      exact ih hrest

end

end Rules

def Grammar.rules? : Grammar → Option Rules
  | powerShell => some Comment.powerShell
  | curly => some Comment.curly
  | markup => some Comment.markup
  | sql => some Comment.sql
  | python | plain => none

theorem apart_curly : Signs.curly.Apart where
  marks := by simp [Signs.curly, Signs.marks, Text.isBlank]
  closer := by decide
  shield := by
    rintro _ ⟨⟩

theorem apart_markup : Signs.markup.Apart where
  marks := by simp [Signs.markup, Signs.marks, Text.isBlank]
  closer := by decide
  shield := by
    rintro _ ⟨⟩

theorem apart_sql : Signs.sql.Apart where
  marks := by simp [Signs.sql, Signs.marks, Text.isBlank]
  closer := by decide
  shield := by
    rintro _ ⟨⟩
    decide

theorem apart_powerShell : Signs.powerShell.Apart where
  marks := by simp [Signs.powerShell, Signs.marks, Text.isBlank]
  closer := by decide
  shield := by
    rintro _ ⟨⟩
    decide

theorem exists_signs {grammar : Grammar} {rules : Rules} (h : grammar.rules? = some rules) :
    ∃ lexer s, grammar.lexer? = some lexer ∧ Signs.Describes s rules ∧ s.Apart ∧
      ∀ line inBlock, lexer line ⟨inBlock, .none⟩ = rules.lexLine line ⟨inBlock, .none⟩ := by
  cases grammar with
  | powerShell => cases h; exact ⟨_, _, rfl, describes_powerShell, apart_powerShell, powerShellLine_eq⟩
  | curly => cases h; exact ⟨_, _, rfl, describes_curly, apart_curly, fun _ _ => rfl⟩
  | markup => cases h; exact ⟨_, _, rfl, describes_markup, apart_markup, fun _ _ => rfl⟩
  | sql => cases h; exact ⟨_, _, rfl, describes_sql, apart_sql, fun _ _ => rfl⟩
  | python | plain => cases h

/-- No comment starts in a file. -/
def Grammar.Commentless : Grammar → Text → Prop
  | plain, _ => True
  | python, content => ∀ r ∈ Python.read .code content, ∀ entry ∈ r.chars, entry.2 ≠ .comment
  | grammar, content =>
    ∀ rules ∈ grammar.rules?, ∀ line ∈ Text.breakLines content, rules.Unmarked .code [] line

theorem commentless_iff_unmarked {grammar : Grammar} {rules : Rules} (h : grammar.rules? = some rules)
    (content : Text) :
    grammar.Commentless content ↔ ∀ line ∈ Text.breakLines content, rules.Unmarked .code [] line := by
  cases grammar with
  | python | plain => cases h
  | powerShell | curly | markup | sql =>
      constructor
      · intro hbare
        exact hbare rules h
      · rintro hu _ hrules
        cases h.symm.trans hrules
        exact hu

section

variable {extension : Text} {rules : Rules} (h : (Grammar.ofExtension extension).rules? = some rules)
  (content : Text)

include h

theorem breakLines_strip_fileRuns :
    Text.breakLines (strip content extension).content =
      (rules.fileRuns false (Text.breakLines content)).map fun runs => Text.trimEnd runs.flatten := by
  obtain ⟨lexer, s, hlexer, -, -, hsame⟩ := exists_signs h
  rw [breakLines_strip hlexer, State.fresh, Rules.run_eq_map_fileRuns hsame]

theorem strip_strip_iff_commentless :
    strip (strip content extension).content extension = strip content extension ↔
      (Grammar.ofExtension extension).Commentless (strip content extension).content := by
  obtain ⟨lexer, s, hlexer, -, -, hsame⟩ := exists_signs h
  have hlines := breakLines_strip_fileRuns h content
  rw [breakLines_strip hlexer, State.fresh] at hlines
  have htrimmed : ∀ line ∈ lexer.run ⟨false, .none⟩ (Text.breakLines content), Text.trimEnd line = line := by
    rw [hlines]
    exact List.forall_mem_map.2 fun runs _ => Text.trimEnd_trimEnd runs.flatten
  rw [commentless_iff_unmarked h, strip_strip_iff_run hlexer, breakLines_strip hlexer]
  exact Rules.run_eq_self_iff hsame htrimmed

theorem commentless_strip_iff :
    (Grammar.ofExtension extension).Commentless (strip content extension).content ↔
      ∀ runs ∈ rules.fileRuns false (Text.breakLines content), ¬ rules.Joins runs := by
  obtain ⟨lexer, s, -, hdescribes, hapart, -⟩ := exists_signs h
  rw [commentless_iff_unmarked h, breakLines_strip_fileRuns h, List.forall_mem_map]
  refine forall₂_congr fun runs hruns => ?_
  obtain ⟨mode, line, hmode, rfl⟩ := Rules.exists_of_mem_fileRuns rules hruns
  obtain ⟨blank, htext, hblank⟩ := Text.exists_eq_trimEnd_append (rules.runs mode 0 [] [] line).flatten
  rw [← Signs.unmarked_flatten_runs_iff hdescribes hapart mode hmode, htext,
    Signs.unmarked_append_of_blank hdescribes hapart hblank, ← htext]

/-- Of each line its runs are left, and a stripped file holds a comment, which stripping it again takes
away, exactly if a mark is put together where two runs meet. -/
theorem strip_strip_iff_not_joins :
    Text.breakLines (strip content extension).content =
        (rules.fileRuns false (Text.breakLines content)).map (fun runs => Text.trimEnd runs.flatten) ∧
      ((Grammar.ofExtension extension).Commentless (strip content extension).content ↔
        ∀ runs ∈ rules.fileRuns false (Text.breakLines content), ¬ rules.Joins runs) ∧
      (strip (strip content extension).content extension = strip content extension ↔
        ∀ runs ∈ rules.fileRuns false (Text.breakLines content), ¬ rules.Joins runs) :=
  ⟨breakLines_strip_fileRuns h content, commentless_strip_iff h content,
    (strip_strip_iff_commentless h content).trans (commentless_strip_iff h content)⟩

end

theorem strip_strip_iff_not_joins_dashes :
    (Grammar.ofExtension ".sql".toList).rules? = some sql ∧
      ∃ runs ∈ sql.fileRuns false (Text.breakLines "SELECT 1 -/* minus */-1;".toList), sql.Joins runs := by
  have hrules : (Grammar.ofExtension ".sql".toList).rules? = some sql := by cbv
  obtain ⟨-, -, hagain⟩ := strip_strip_iff_not_joins hrules "SELECT 1 -/* minus */-1;".toList
  have hne : strip (strip "SELECT 1 -/* minus */-1;".toList ".sql".toList).content ".sql".toList ≠
      strip "SELECT 1 -/* minus */-1;".toList ".sql".toList := by decide
  rw [ne_eq, hagain] at hne
  push Not at hne
  exact ⟨hrules, hne⟩

/-- Two dashes that a comment has kept apart start one when it is gone, and so do the parts of the mark that
opens a comment in markup. -/
theorem strip_strip_joined_ne :
    (strip "SELECT 1 -/* minus */-1;".toList ".sql".toList).content = "SELECT 1 --1;".toList ∧
      strip (strip "SELECT 1 -/* minus */-1;".toList ".sql".toList).content ".sql".toList ≠
        strip "SELECT 1 -/* minus */-1;".toList ".sql".toList ∧
      (strip "<!<!-- x -->-- y -->".toList ".html".toList).content = "<!-- y -->".toList ∧
      strip (strip "<!<!-- x -->-- y -->".toList ".html".toList).content ".html".toList ≠
        strip "<!<!-- x -->-- y -->".toList ".html".toList := by
  decide

theorem commentless_python {content : Text}
    (h : LineLexer.run Python.lexLine State.fresh (Text.breakLines content) = Text.breakLines content) :
    Grammar.Commentless .python content := by
  have hread : LineLexer.run Python.lexLine State.fresh (Text.breakLines content) =
      (Python.read .code content).map Python.ReadLine.stripped := Python.run_breakLines .code content
  rw [h, ← Python.map_text_read .code content, List.map_inj_left] at hread
  intro r hr
  obtain ⟨place, line, hreads⟩ := Python.exists_reads_of_mem_read .code hr
  exact hreads.ne_comment_of_stripped (hread r hr).symm

section

variable {extension : Text} (content : Text)

theorem strip_strip_of_rules {rules : Rules} (h : (Grammar.ofExtension extension).rules? = some rules)
    (hj : ∀ mode : Mode, mode.outside = .code → ∀ line, ¬ rules.Joins (rules.runs mode 0 [] [] line)) :
    strip (strip content extension).content extension = strip content extension ∧
      (Grammar.ofExtension extension).Commentless (strip content extension).content := by
  rw [strip_strip_iff_commentless h, and_self, commentless_strip_iff h]
  intro runs hruns
  obtain ⟨mode, line, hmode, rfl⟩ := Rules.exists_of_mem_fileRuns rules hruns
  exact hj mode hmode line

theorem strip_strip_of_python (h : Grammar.ofExtension extension = .python) :
    strip (strip content extension).content extension = strip content extension ∧
      (Grammar.ofExtension extension).Commentless (strip content extension).content := by
  have hlexer : (Grammar.ofExtension extension).lexer? = some Python.lexLine := by rw [h]; rfl
  have hrun := LineLexer.run_run Python.lexLine_lexLine State.fresh (Text.breakLines content)
  refine ⟨(strip_strip_iff_run hlexer content).2 hrun, ?_⟩
  rw [h]
  rw [← breakLines_strip hlexer] at hrun
  exact commentless_python hrun

/-- In these three families a stripped file holds no comment, and stripping it again changes nothing. -/
theorem strip_strip
    (h : Grammar.ofExtension extension = .curly ∨ Grammar.ofExtension extension = .powerShell ∨
      Grammar.ofExtension extension = .python) :
    strip (strip content extension).content extension = strip content extension ∧
      (Grammar.ofExtension extension).Commentless (strip content extension).content := by
  rcases h with h | h | h
  · exact strip_strip_of_rules content (by rw [h]; rfl) not_joins_curly
  · exact strip_strip_of_rules content (by rw [h]; rfl) not_joins_powerShell
  · exact strip_strip_of_python content h

end

theorem strip_strip_carried :
    Grammar.ofExtension ".cs".toList = .curly ∧
      strip "a(); /* one\r\ntwo */ b /= '/'; // c".toList ".cs".toList =
        ⟨"a();\r\n b /= '/';".toList, .curly, none⟩ ∧
      strip "a();\r\n b /= '/';".toList ".cs".toList = ⟨"a();\r\n b /= '/';".toList, .curly, none⟩ := by
  have hgrammar : Grammar.ofExtension ".cs".toList = .curly := by decide
  have honce : strip "a(); /* one\r\ntwo */ b /= '/'; // c".toList ".cs".toList =
      ⟨"a();\r\n b /= '/';".toList, .curly, none⟩ := by decide
  obtain ⟨htwice, -⟩ := strip_strip "a(); /* one\r\ntwo */ b /= '/'; // c".toList (.inl hgrammar)
  rw [honce] at htwice
  exact ⟨hgrammar, honce, htwice⟩

end SourceBook.Comment
