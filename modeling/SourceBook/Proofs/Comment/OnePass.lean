import SourceBook.Comment.Strip
import SourceBook.Proofs.Comment.Automaton

namespace SourceBook.Text

def EndsLine (next : Text) : Prop := next = [] ∨ ∃ own below, breakAt? next = some (own, below)

theorem EndsLine.isBreak_head {next : Text} (h : EndsLine next) : ∀ c ∈ next.head?, isBreak c = true := by
  rintro c hc
  obtain ⟨rest, rfl⟩ := List.head?_eq_some_iff.1 hc
  rcases h with h | ⟨own, below, hb⟩
  · exact absurd h (by simp)
  · rcases breakAt?_cases hb with ⟨-, h⟩ | ⟨-, h, -⟩ | ⟨-, h⟩ <;> (cases h; rfl)

/-- A mark without a line break does not reach over the end of a line. -/
theorem startsWith_append_of_endsLine {mark next : Text} (hm : Unbroken mark) (hn : EndsLine next)
    (line : Text) : startsWith mark (line ++ next) = startsWith mark line :=
  startsWith_append_of_head? (fun c hc hmem => by simpa [hm c hmem] using hn.isBreak_head c hc) line

theorem length_le_of_startsWith {mark text : Text} (h : startsWith mark text = true) :
    mark.length ≤ text.length := by
  obtain ⟨rest, hr⟩ := Option.isSome_iff_exists.1 h
  rw [after?_eq_some_iff.1 hr, List.length_append]
  omega

end SourceBook.Text

namespace SourceBook.Comment

structure Signs.Describes (s : Signs) (rules : Rules) : Prop where
  opener : rules.opener = s.opener
  closer : rules.closer = s.closer
  quotes : rules.quotes = s.quotes
  escapes : ∀ quote ∈ s.quotes, rules.escapes quote = decide (quote ∈ s.escaping)
  startsTail : ∀ before rest, rules.startsTail before rest = s.startsTail before rest

def Rules.outcome (rules : Rules) (mode : Mode) (before kept line : Text) : Text × Bool :=
  ((rules.scan mode 0 before kept line).1, (rules.scan mode 0 before kept line).2 == .block)

theorem lexLine_eq (rules : Rules) (line : Text) (inBlock : Bool) :
    rules.lexLine line ⟨inBlock, .none⟩ =
      ⟨Text.trimEnd (rules.outcome (if inBlock then .block else .code) [] [] line).1,
        (rules.outcome (if inBlock then .block else .code) [] [] line).2, .none⟩ := rfl

theorem scan_skip (rules : Rules) (mode : Mode) (before kept : Text) {n : Nat} {line : Text}
    (h : n ≤ line.length) :
    rules.scan mode n before kept line =
      rules.scan mode 0 ((line.take n).reverse ++ before) kept (line.drop n) := by
  induction n generalizing before line with
  | zero => rfl
  | succ n ih =>
      cases line with
      | nil => exact absurd h (by simp)
      | cons c line =>
          rw [Rules.scan, ih (c :: before) (by simpa using h)]
          simp

/-- The mode of the line reader. A line comment ends the reading of its line, so it has none of its
own. -/
def Reading.onLine : Reading → Mode
  | .code | .tail => .code
  | .literal quote => .literal quote false
  | .block => .block

def Reading.IsQuoted (s : Signs) : Reading → Prop
  | .literal quote => quote ∈ s.quotes
  | .code | .block | .tail => True

namespace Signs

variable {s : Signs} {rules : Rules} {mode : Reading} {c : Char} {rest : Text}

theorem isQuoted_piece (h : mode.IsQuoted s) (before : Text) (c : Char) (rest : Text) :
    (s.piece mode before c rest).mode.IsQuoted s := by
  cases mode with
  | code =>
      rw [piece]
      split_ifs with hq
      · exact hq
      · trivial
      · trivial
      · trivial
  | literal quote =>
      simp only [piece]
      split_ifs
      · exact h
      · exact h
      · trivial
      · exact h
  | block =>
      rw [piece]
      split_ifs <;> trivial
  | tail => trivial

theorem isKept_piece_of_tail {before : Text} (h : (s.piece mode before c rest).mode = .tail) :
    (s.piece mode before c rest).isKept = false := by
  cases mode with
  | code =>
      rw [piece] at h ⊢
      split_ifs at h ⊢
      · rfl
  | literal quote =>
      simp only [piece] at h
      split_ifs at h
  | block =>
      rw [piece] at h
      split_ifs at h
  | tail => rfl

theorem more_piece_le (mode : Reading) (before : Text) (c : Char) (rest : Text) :
    (s.piece mode before c rest).more ≤ rest.length := by
  cases mode with
  | code =>
      rw [piece]
      split_ifs with hq ho
      · exact Nat.zero_le _
      · have hlength := Text.length_le_of_startsWith ho
        rw [List.length_cons] at hlength
        exact Nat.sub_le_of_le_add hlength
      · exact Nat.zero_le _
      · exact Nat.zero_le _
  | literal quote =>
      simp only [piece]
      split_ifs with he hd
      · cases rest with
        | nil => exact absurd hd (by simp)
        | cons d rest => simp
      · exact Nat.zero_le _
      · exact Nat.zero_le _
      · exact Nat.zero_le _
  | block =>
      rw [piece]
      split_ifs with hcl
      · have hlength := Text.length_le_of_startsWith hcl
        rw [List.length_cons] at hlength
        exact Nat.sub_le_of_le_add hlength
      · exact Nat.zero_le _
  | tail => exact Nat.zero_le _

theorem piece_append {next : Text} (hn : Text.EndsLine next) (mode : Reading) (before : Text) (c : Char)
    (rest : Text) : s.piece mode before c (rest ++ next) = s.piece mode before c rest := by
  have hmark {mark : Text} (hm : Text.Unbroken mark) :
      Text.startsWith mark (c :: (rest ++ next)) = Text.startsWith mark (c :: rest) :=
    Text.startsWith_append_of_endsLine hm hn (c :: rest)
  have htail : s.startsTail before (c :: (rest ++ next)) = s.startsTail before (c :: rest) := by
    rw [startsTail, startsTail]
    cases ht : s.tail with
    | none => rfl
    | some mark => simp only [Option.any_some, hmark (s.tail_unbroken mark ht)]
  have hhead : ((rest ++ next).head?.any fun d => !Text.isBreak d) =
      rest.head?.any fun d => !Text.isBreak d := by
    cases rest with
    | cons d rest => rfl
    | nil =>
        cases next with
        | nil => rfl
        | cons d next => simp [hn.isBreak_head d rfl]
  cases mode with
  | code => rw [piece, piece, hmark s.opener_unbroken, htail]
  | literal quote => simp only [piece, hhead]
  | block => rw [piece, piece, hmark s.closer_unbroken]
  | tail => rfl

/-- One piece of a line, read by the rules. -/
theorem outcome_cons (h : s.Describes rules) (hq : mode.IsQuoted s) (ht : mode ≠ .tail)
    (hrest : Text.Unbroken rest) (before kept : Text) :
    rules.outcome mode.onLine before kept (c :: rest) =
      if (s.piece mode before c rest).mode = .tail then (kept.reverse, false)
      else rules.outcome (s.piece mode before c rest).mode.onLine
        ((s.piece mode before c rest).read c rest ++ before)
        (if (s.piece mode before c rest).isKept then (s.piece mode before c rest).read c rest ++ kept
          else kept)
        (rest.drop (s.piece mode before c rest).more) := by
  have hmore := s.more_piece_le mode before c rest
  cases mode with
  | code =>
      have hscan : rules.scan .code 0 before kept (c :: rest) =
          if s.quotes.elem c then rules.scan (.literal c false) 0 (c :: before) (c :: kept) rest
          else if Text.startsWith s.opener (c :: rest) then
            rules.scan .block (s.opener.length - 1) (c :: before) kept rest
          else if s.startsTail before (c :: rest) then (kept.reverse, .code)
          else rules.scan .code 0 (c :: before) (c :: kept) rest := by
        rw [Rules.scan, h.quotes, h.opener, h.startsTail]
      rw [Rules.outcome, Reading.onLine, hscan]
      simp only [piece] at hmore ⊢
      by_cases hquote : c ∈ s.quotes
      · simp [hquote, Rules.outcome, Reading.onLine, Piece.read]
      · by_cases hopen : Text.startsWith s.opener (c :: rest) = true
        · simp only [hquote, hopen, if_true, if_false] at hmore
          simp [hquote, hopen, Rules.outcome, Reading.onLine, Piece.read, scan_skip rules _ _ _ hmore]
        · by_cases htail : s.startsTail before (c :: rest) = true
          · simp [hquote, hopen, htail]
          · simp [hquote, hopen, htail, Rules.outcome, Reading.onLine, Piece.read]
  | literal quote =>
      have hescapes : rules.escapes quote = decide (quote ∈ s.escaping) := h.escapes quote hq
      simp only [piece]
      by_cases hback : c = '\\' ∧ quote ∈ s.escaping
      · cases rest with
        | nil =>
            -- The backslash ends the line, and the line reader still waits for what it would take.
            simp [hback, hescapes, Rules.outcome, Reading.onLine, Piece.read, Rules.scan]
        | cons d rest =>
            have hd := (Text.Unbroken.cons_iff.1 hrest).1
            simp [hback, hescapes, hd, Rules.outcome, Reading.onLine, Piece.read, Rules.scan]
      · by_cases hquote : c = quote
        · subst hquote
          simp [hback, hescapes, Rules.outcome, Reading.onLine, Piece.read, Rules.scan]
        · simp [hback, hescapes, hquote, Rules.outcome, Reading.onLine, Piece.read, Rules.scan]
  | block =>
      have hscan : rules.scan .block 0 before kept (c :: rest) =
          if Text.startsWith s.closer (c :: rest) then
            rules.scan .code (s.closer.length - 1) (c :: before) kept rest
          else rules.scan .block 0 (c :: before) kept rest := by
        rw [Rules.scan, h.closer]
      rw [Rules.outcome, Reading.onLine, hscan]
      simp only [piece] at hmore ⊢
      by_cases hclose : Text.startsWith s.closer (c :: rest) = true
      · simp only [hclose, if_true] at hmore
        simp [hclose, Rules.outcome, Reading.onLine, Piece.read, scan_skip rules _ _ _ hmore]
      · simp [hclose, Rules.outcome, Reading.onLine, Piece.read]
  | tail => exact absurd rfl ht

def proceed (s : Signs) (ending : Option Text) (inBlock : Bool) (next : Text) : Text :=
  match Text.breakAt? next with
  | some (own, below) =>
    ending.getD own ++ s.sweep (some (ending.getD own)) (if inBlock then .block else .code) [] [] below
  | none => []

section

variable {next : Text} (hn : Text.EndsLine next)

include hn

theorem sweep_next (ending : Option Text) (mode : Reading) (before kept : Text) :
    s.sweep ending mode before kept next =
      Text.trimEnd kept.reverse ++ s.proceed ending (mode.onLine == .block) next := by
  rcases hn with rfl | ⟨own, below, hb⟩
  · rw [sweep_nil]
    exact (List.append_nil _).symm
  · rw [sweep_of_breakAt? s hb, proceed, hb]
    cases mode <;> rfl

theorem sweep_tail_append {line : Text} (hl : Text.Unbroken line) (ending : Option Text)
    (before kept : Text) :
    s.sweep ending .tail before kept (line ++ next) =
      Text.trimEnd kept.reverse ++ s.proceed ending false next := by
  induction line generalizing before with
  | nil => exact sweep_next hn ending .tail before kept
  | cons c line ih =>
      obtain ⟨hc, hl⟩ := Text.Unbroken.cons_iff.1 hl
      rw [List.cons_append, sweep_cons s hc]
      exact ih hl _

/-- Up to the end of a line the automaton writes what the rules make of the line. -/
theorem sweep_append (h : s.Describes rules) {line : Text} (hl : Text.Unbroken line)
    (hq : mode.IsQuoted s) (ht : mode ≠ .tail) (ending : Option Text) (before kept : Text) :
    s.sweep ending mode before kept (line ++ next) =
      Text.trimEnd (rules.outcome mode.onLine before kept line).1 ++
        s.proceed ending (rules.outcome mode.onLine before kept line).2 next := by
  -- A piece takes one character or several, so the induction is on the length of what is left.
  induction hlength : line.length using Nat.strong_induction_on generalizing line mode before kept with
  | h n ih =>
      cases line with
      | nil =>
          rw [List.nil_append, sweep_next hn, Rules.outcome, Rules.scan]
      | cons c rest =>
          obtain ⟨hc, hrest⟩ := Text.Unbroken.cons_iff.1 hl
          have hmore := s.more_piece_le mode before c rest
          have hread : ∀ p : Piece, p.more ≤ rest.length → p.read c (rest ++ next) = p.read c rest := by
            intro p hp
            rw [Piece.read, Piece.read, List.take_append_of_le_length hp]
          rw [List.cons_append, sweep_cons s hc, piece_append hn, hread _ hmore,
            List.drop_append_of_le_length hmore, outcome_cons h hq ht hrest]
          by_cases htail : (s.piece mode before c rest).mode = .tail
          · rw [if_pos htail, htail, isKept_piece_of_tail htail, if_neg (by decide),
              sweep_tail_append hn (hrest.drop _)]
          · rw [if_neg htail]
            refine ih (rest.drop (s.piece mode before c rest).more).length ?_ (hrest.drop _)
              (isQuoted_piece hq before c rest) htail _ _ rfl
            rw [← hlength, List.length_drop, List.length_cons]
            omega

end

/-- The lines of a file, lexed one after another and put together again, are what the automaton
writes. -/
theorem exists_lexLines {lexer : LineLexer} (h : s.Describes rules)
    (hlexer : ∀ line inBlock, lexer line ⟨inBlock, .none⟩ = rules.lexLine line ⟨inBlock, .none⟩)
    (ending : Option Text) (inBlock : Bool) (content : Text) :
    ∃ pieces, lexLines lexer.total ⟨inBlock, .none⟩ (Text.breakLines content) = .ok pieces ∧
      pieces ≠ [] ∧
      (ending.getD (Text.firstBreak content)).intercalate pieces =
        s.sweep ending (if inBlock then .block else .code) [] [] content := by
  -- Only the flag and, behind the first break, the ending pass from a line to what stands below it.
  induction hlength : content.length using Nat.strong_induction_on generalizing content inBlock ending with
  | h n ih =>
      obtain ⟨line, next, rfl, hl, hn⟩ := Text.exists_unbroken_append content
      have hlexed := (hlexer line inBlock).trans (lexLine_eq rules line inBlock)
      have hsweep : s.sweep ending (if inBlock then .block else .code) [] [] (line ++ next) =
          (lexer line ⟨inBlock, .none⟩).text ++
            s.proceed ending (lexer line ⟨inBlock, .none⟩).state.inBlock next := by
        rw [hlexed, sweep_append hn h hl (by cases inBlock <;> trivial) (by cases inBlock <;> decide)]
        cases inBlock <;> rfl
      rcases hn with rfl | ⟨own, below, hb⟩
      · refine ⟨[(lexer line ⟨inBlock, .none⟩).text], ?_, List.cons_ne_nil _ _, ?_⟩
        · rw [List.append_nil, Text.breakLines_of_unbroken hl]
          rfl
        · rw [hsweep]
          simp [proceed, Text.breakAt?]
      · have hbelow : below.length < n := by
          have := Text.length_lt_of_breakAt? hb
          rw [← hlength, List.length_append]
          omega
        obtain ⟨pieces, hpieces, hne, htext⟩ :=
          ih below.length hbelow (some (ending.getD own)) (lexer line ⟨inBlock, .none⟩).state.inBlock
            below rfl
        have hstate : (lexer line ⟨inBlock, .none⟩).state =
            ⟨(lexer line ⟨inBlock, .none⟩).state.inBlock, .none⟩ := by
          rw [hlexed]
        refine ⟨(lexer line ⟨inBlock, .none⟩).text :: pieces, ?_, List.cons_ne_nil _ _, ?_⟩
        · rw [Text.breakLines_append_of_breakAt? hl hb]
          show (do
            let lexed ← lexer.total line ⟨inBlock, .none⟩
            return lexed.text :: (← lexLines lexer.total lexed.state (Text.breakLines below))) = _
          simp only [LineLexer.total, pure, Except.pure, bind, Except.bind] at hpieces ⊢
          rw [hstate, hpieces]
        · rw [Text.firstBreak_append_of_breakAt? hl hb, List.intercalate_cons_of_ne_nil hne, hsweep,
            proceed, hb]
          rw [Option.getD_some] at htext
          rw [htext]
          simp

theorem stripWith_eq {lexer : LineLexer} (h : s.Describes rules)
    (hlexer : ∀ line inBlock, lexer line ⟨inBlock, .none⟩ = rules.lexLine line ⟨inBlock, .none⟩)
    (content : Text) : stripWith lexer.total content = .ok (s.strip content) := by
  obtain ⟨pieces, hpieces, -, htext⟩ := exists_lexLines h hlexer none false content
  rw [stripWith, State.fresh, hpieces]
  exact congrArg Except.ok htext

end Signs

theorem describes_curly : Signs.curly.Describes curly where
  opener := rfl
  closer := rfl
  quotes := rfl
  escapes := List.forall_mem_cons.2 ⟨rfl, List.forall_mem_singleton.2 rfl⟩
  startsTail before rest := by simp [Signs.startsTail, Signs.curly, curly]

theorem describes_sql : Signs.sql.Describes sql where
  opener := rfl
  closer := rfl
  quotes := rfl
  escapes := List.forall_mem_cons.2 ⟨rfl, List.forall_mem_singleton.2 rfl⟩
  startsTail before rest := by simp [Signs.startsTail, Signs.sql, sql]

theorem describes_powerShell : Signs.powerShell.Describes powerShell where
  opener := rfl
  closer := rfl
  quotes := rfl
  escapes := List.forall_mem_cons.2 ⟨rfl, List.forall_mem_singleton.2 rfl⟩
  startsTail before rest := by simp [Signs.startsTail, Signs.powerShell, powerShell]

theorem describes_markup : Signs.markup.Describes markup where
  opener := rfl
  closer := rfl
  quotes := rfl
  escapes := List.forall_mem_nil _
  startsTail _ _ := rfl

theorem scan_block_of_not_includes {rules : Rules} {line : Text}
    (h : Text.includes rules.closer line = false) (before kept : Text) :
    rules.scan .block 0 before kept line = (kept.reverse, .block) := by
  induction line generalizing before with
  | nil => rfl
  | cons c line ih =>
      rw [Text.includes, Bool.or_eq_false_iff] at h
      rw [Rules.scan, h.1, if_neg (by decide), ih h.2]

theorem powerShellLine_eq (line : Text) (inBlock : Bool) :
    powerShellLine line ⟨inBlock, .none⟩ = powerShell.lexLine line ⟨inBlock, .none⟩ := by
  rw [powerShellLine]
  split_ifs with h
  · obtain ⟨rfl, hclosed⟩ : inBlock = true ∧ Text.includes powerShell.closer line = false := by
      simpa using h
    rw [Rules.lexLine, if_pos rfl, scan_block_of_not_includes hclosed]
    rfl
  · rfl

/-- For every notation with block comments that ends its literals with their line, the line lexer in
use and the automaton agree on every file. -/
theorem stripWith_standardLexers (content : Text) :
    (standardLexers .curly).map (stripWith · content) = some (.ok (Signs.curly.strip content)) ∧
      (standardLexers .sql).map (stripWith · content) = some (.ok (Signs.sql.strip content)) ∧
      (standardLexers .powerShell).map (stripWith · content) =
        some (.ok (Signs.powerShell.strip content)) ∧
      (standardLexers .markup).map (stripWith · content) = some (.ok (Signs.markup.strip content)) := by
  refine ⟨?_, ?_, ?_, ?_⟩
  · exact congrArg some (Signs.stripWith_eq describes_curly (fun _ _ => rfl) content)
  · exact congrArg some (Signs.stripWith_eq describes_sql (fun _ _ => rfl) content)
  · exact congrArg some (Signs.stripWith_eq describes_powerShell powerShellLine_eq content)
  · exact congrArg some (Signs.stripWith_eq describes_markup (fun _ _ => rfl) content)

end SourceBook.Comment
