import SourceBook.Comment.Strip

namespace SourceBook.Comment

inductive Lexes (lexer : FallibleLexer) : State → List Text → List Text → State → Prop
  | nil (state) : Lexes lexer state [] [] state
  | cons {state line lexed rest texts last} (hline : lexer line state = .ok lexed)
      (hrest : Lexes lexer lexed.state rest texts last) :
      Lexes lexer state (line :: rest) (lexed.text :: texts) last

/-- A lexer gives up on one of the lines, having come through those before it. -/
def GivesUp (lexer : FallibleLexer) (state : State) (lines : List Text) (message : Text) : Prop :=
  ∃ before line after texts last, lines = before ++ line :: after ∧
    Lexes lexer state before texts last ∧ lexer line last = .error message

section

variable {lexer : FallibleLexer} {state last : State} {lines texts : List Text} {message : Text}

theorem lexLines_of_error {line : Text} {rest : List Text} (h : lexer line state = .error message) :
    lexLines lexer state (line :: rest) = .error message := by
  rw [lexLines, h]
  rfl

theorem lexLines_of_ok {line : Text} {rest : List Text} {lexed : Lexed} (h : lexer line state = .ok lexed) :
    lexLines lexer state (line :: rest) =
      (lexLines lexer lexed.state rest).map fun texts => lexed.text :: texts := by
  rw [lexLines, h]
  cases h' : lexLines lexer lexed.state rest <;> simp [bind, Except.bind, h', pure, Except.pure, Except.map]

theorem Lexes.lexLines_eq (h : Lexes lexer state lines texts last) :
    lexLines lexer state lines = .ok texts := by
  induction h with
  | nil => rfl
  | cons hline hrest ih => rw [lexLines_of_ok hline, ih]; rfl

theorem Lexes.lexLines_append_cons (h : Lexes lexer state lines texts last) {line : Text}
    (hline : lexer line last = .error message) (after : List Text) :
    lexLines lexer state (lines ++ line :: after) = .error message := by
  induction h with
  | nil => exact lexLines_of_error hline
  | cons hfirst hrest ih => rw [List.cons_append, lexLines_of_ok hfirst, ih hline]; rfl

theorem GivesUp.lexLines_eq (h : GivesUp lexer state lines message) :
    lexLines lexer state lines = .error message := by
  obtain ⟨before, line, after, texts, last, rfl, hbefore, hline⟩ := h
  exact hbefore.lexLines_append_cons hline after

theorem GivesUp.cons {line : Text} {lexed : Lexed} (hline : lexer line state = .ok lexed)
    (h : GivesUp lexer lexed.state lines message) : GivesUp lexer state (line :: lines) message := by
  obtain ⟨before, failed, after, texts, last, rfl, hbefore, hfailed⟩ := h
  exact ⟨line :: before, failed, after, lexed.text :: texts, last, rfl, .cons hline hbefore, hfailed⟩

end

section

variable (lexer : FallibleLexer)

theorem lexes_or_givesUp (state : State) (lines : List Text) :
    (∃ texts last, Lexes lexer state lines texts last) ∨ ∃ message, GivesUp lexer state lines message := by
  induction lines generalizing state with
  | nil => exact .inl ⟨[], state, .nil state⟩
  | cons line rest ih =>
      cases hline : lexer line state with
      | error message => exact .inr ⟨message, [], line, rest, [], state, rfl, .nil state, hline⟩
      | ok lexed =>
          rcases ih lexed.state with ⟨texts, last, hrest⟩ | ⟨message, hrest⟩
          · exact .inl ⟨lexed.text :: texts, last, .cons hline hrest⟩
          · exact .inr ⟨message, hrest.cons hline⟩

variable {lexer} {content : Text}

theorem stripWith_of_lexes {texts : List Text} {last : State}
    (h : Lexes lexer State.fresh (Text.breakLines content) texts last) :
    stripWith lexer content = .ok ((Text.firstBreak content).intercalate texts) := by
  rw [stripWith, h.lexLines_eq]
  rfl

theorem stripWith_of_givesUp {message : Text}
    (h : GivesUp lexer State.fresh (Text.breakLines content) message) :
    stripWith lexer content = .error message := by
  rw [stripWith, h.lexLines_eq]
  rfl

variable {lexers : Lexers} {extension : Text}
  (hlexer : lexers (Grammar.ofExtension extension) = some lexer)

include hlexer

theorem stripBy_of_ok {stripped : Text} (h : stripWith lexer content = .ok stripped) :
    stripBy lexers content extension = ⟨stripped, Grammar.ofExtension extension, none⟩ := by
  simp only [stripBy, hlexer, h]

theorem stripBy_of_error {message : Text} (h : stripWith lexer content = .error message) :
    stripBy lexers content extension =
      ⟨content, Grammar.ofExtension extension,
        some ((Grammar.ofExtension extension).name ++ " lexer failed: ".toList ++ message)⟩ := by
  simp only [stripBy, hlexer, h]

end

end SourceBook.Comment
