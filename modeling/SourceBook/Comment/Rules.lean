import SourceBook.Comment.State

namespace SourceBook.Comment

/-- A language whose literals end with their line and whose block comments do not nest. -/
structure Rules where
  opener : Text
  closer : Text
  quotes : Text
  escapes : Char → Bool
  /-- Whether a line comment starts here, given what stands before on the line, nearest first. -/
  startsTail : (before rest : Text) → Bool

inductive Mode where
  | code
  | literal (quote : Char) (escaped : Bool)
  | block
  deriving DecidableEq, Repr

/-- Reads the rest of a line. `skip` characters are the remainder of a comment mark and are passed
over; `before` is what has been read and `kept` what has been kept, both nearest first. The result is
the kept text and the mode at the end of the line. -/
def Rules.scan (rules : Rules) : Mode → Nat → (before kept : Text) → Text → Text × Mode
  | mode, _, _, kept, [] => (kept.reverse, mode)
  | mode, skip + 1, before, kept, c :: rest => rules.scan mode skip (c :: before) kept rest
  | .block, 0, before, kept, c :: rest =>
    if Text.startsWith rules.closer (c :: rest) then
      rules.scan .code (rules.closer.length - 1) (c :: before) kept rest
    else rules.scan .block 0 (c :: before) kept rest
  | .literal quote escaped, 0, before, kept, c :: rest =>
    let mode :=
      if escaped then .literal quote false
      else if c = '\\' ∧ rules.escapes quote then .literal quote true
      else if c = quote then .code
      else .literal quote false
    rules.scan mode 0 (c :: before) (c :: kept) rest
  | .code, 0, before, kept, c :: rest =>
    if rules.quotes.elem c then rules.scan (.literal c false) 0 (c :: before) (c :: kept) rest
    else if Text.startsWith rules.opener (c :: rest) then
      rules.scan .block (rules.opener.length - 1) (c :: before) kept rest
    else if rules.startsTail before (c :: rest) then (kept.reverse, .code)
    else rules.scan .code 0 (c :: before) (c :: kept) rest

def Rules.lexLine (rules : Rules) : LineLexer := fun line state =>
  let (text, mode) := rules.scan (if state.inBlock then .block else .code) 0 [] [] line
  finish text ⟨mode == .block, .none⟩

def curly : Rules where
  opener := ['/', '*']
  closer := ['*', '/']
  quotes := ['"', '\'']
  escapes _ := true
  startsTail _ rest := Text.startsWith ['/', '/'] rest

/-- Block comments between `/*` and `*/`, line comments after two dashes. Dashes that follow a colon
and two slashes belong to an address and are kept. -/
def sql : Rules where
  opener := ['/', '*']
  closer := ['*', '/']
  quotes := ['"', '\'']
  escapes _ := true
  startsTail before rest :=
    Text.startsWith ['-', '-'] rest && !Text.startsWith ['/', '/', ':'] before

/-- Markup has no literals: its text is full of apostrophes. -/
def markup : Rules where
  opener := ['<', '!', '-', '-']
  closer := ['-', '-', '>']
  quotes := []
  escapes _ := false
  startsTail _ _ := false

/-- A number sign directly after an opening bracket is part of a type literal and starts no comment.
Only double quotes know escapes. -/
def powerShell : Rules where
  opener := ['<', '#']
  closer := ['#', '>']
  quotes := ['"', '\'']
  escapes quote := quote == '"'
  startsTail before rest := Text.startsWith ['#'] rest && !Text.startsWith ['['] before

def powerShellLine : LineLexer := fun line state =>
  -- A line wholly inside a block comment leaves the state as it was.
  if state.inBlock && !Text.includes powerShell.closer line then ⟨[], state⟩
  else powerShell.lexLine line state

end SourceBook.Comment
