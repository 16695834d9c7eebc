import SourceBook.Comment.Rules
import SourceBook.Proofs.Text.FileLines

namespace SourceBook.Comment

instance (line : Text) : Decidable (Text.Unbroken line) :=
  List.decidableBAll (fun c => Text.isBreak c = false) line

structure Signs where
  opener : Text
  closer : Text
  tail : Option Text
  /-- What keeps a line comment from starting when it stands directly in front, on the same line. -/
  shield : Option Text
  quotes : List Char
  escaping : List Char
  opener_unbroken : Text.Unbroken opener := by decide
  closer_unbroken : Text.Unbroken closer := by decide
  tail_unbroken : ∀ mark ∈ tail, Text.Unbroken mark := by decide

inductive Reading where
  | code
  | literal (quote : Char)
  | block
  | tail
  deriving DecidableEq, Repr

def Reading.below : Reading → Reading
  | .block => .block
  | .code | .literal _ | .tail => .code

/-- What is read at once: a character, a mark, or a backslash with the character that it takes
along. -/
structure Piece where
  more : Nat
  isKept : Bool
  mode : Reading

def Piece.read (piece : Piece) (c : Char) (rest : Text) : Text := (c :: rest.take piece.more).reverse

namespace Signs

def curly : Signs where
  opener := "/*".toList
  closer := "*/".toList
  tail := some "//".toList
  shield := none
  quotes := ['"', '\'']
  escaping := ['"', '\'']

def sql : Signs where
  opener := "/*".toList
  closer := "*/".toList
  tail := some "--".toList
  shield := some "://".toList
  quotes := ['"', '\'']
  escaping := ['"', '\'']

def powerShell : Signs where
  opener := "<#".toList
  closer := "#>".toList
  tail := some "#".toList
  shield := some "[".toList
  quotes := ['"', '\'']
  escaping := ['"']

def markup : Signs where
  opener := "<!--".toList
  closer := "-->".toList
  tail := none
  shield := none
  quotes := []
  escaping := []

variable (s : Signs)

def startsTail (before rest : Text) : Bool :=
  s.tail.any (fun mark => Text.startsWith mark rest) &&
    !s.shield.any fun shield => Text.startsWith shield.reverse before

def piece (mode : Reading) (before : Text) (c : Char) (rest : Text) : Piece :=
  match mode with
  | .code =>
    if c ∈ s.quotes then ⟨0, true, .literal c⟩
    else if Text.startsWith s.opener (c :: rest) then ⟨s.opener.length - 1, false, .block⟩
    else if s.startsTail before (c :: rest) then ⟨0, false, .tail⟩
    else ⟨0, true, .code⟩
  | .literal quote =>
    if c = '\\' ∧ quote ∈ s.escaping then
      ⟨if rest.head?.any fun d => !Text.isBreak d then 1 else 0, true, .literal quote⟩
    else ⟨0, true, if c = quote then .code else .literal quote⟩
  | .block =>
    if Text.startsWith s.closer (c :: rest) then ⟨s.closer.length - 1, false, .code⟩
    else ⟨0, false, .block⟩
  | .tail => ⟨0, false, .tail⟩

/-- Reads a text. `before` is what has been read of the line and `kept` what has been kept of it, both
nearest first. Every line break is written as `ending`, which is the first one where it is not known
yet, and no line that is written ends in a blank. -/
def sweep (ending : Option Text) (mode : Reading) (before kept : Text) : Text → Text
  | [] => Text.trimEnd kept.reverse
  | c :: rest =>
    match _h : Text.breakAt? (c :: rest) with
    | some (own, below) =>
      Text.trimEnd kept.reverse ++ ending.getD own ++ sweep (some (ending.getD own)) mode.below [] [] below
    | none =>
      let piece := s.piece mode before c rest
      sweep ending piece.mode (piece.read c rest ++ before)
        (if piece.isKept then piece.read c rest ++ kept else kept) (rest.drop piece.more)
termination_by text => text.length
decreasing_by
  · exact Text.length_lt_of_breakAt? _h
  · simp only [List.length_cons, List.length_drop]
    omega

def strip (content : Text) : Text := s.sweep none .code [] [] content

theorem sweep_nil (ending : Option Text) (mode : Reading) (before kept : Text) :
    s.sweep ending mode before kept [] = Text.trimEnd kept.reverse := by
  rw [sweep]

theorem sweep_of_breakAt? {text own below : Text} (h : Text.breakAt? text = some (own, below))
    (ending : Option Text) (mode : Reading) (before kept : Text) :
    s.sweep ending mode before kept text =
      Text.trimEnd kept.reverse ++ (ending.getD own ++
        s.sweep (some (ending.getD own)) mode.below [] [] below) := by
  cases text with
  | nil => exact absurd h (by simp [Text.breakAt?])
  | cons c rest =>
      rw [sweep]
      split
      · next heq =>
          rw [h] at heq
          cases heq
          rw [List.append_assoc]
      · next heq => rw [h] at heq; cases heq

theorem sweep_cons {c : Char} (h : Text.isBreak c = false) (ending : Option Text) (mode : Reading)
    (before kept rest : Text) :
    s.sweep ending mode before kept (c :: rest) =
      s.sweep ending (s.piece mode before c rest).mode
        ((s.piece mode before c rest).read c rest ++ before)
        (if (s.piece mode before c rest).isKept then (s.piece mode before c rest).read c rest ++ kept
          else kept)
        (rest.drop (s.piece mode before c rest).more) := by
  rw [sweep]
  split
  · next heq => rw [Text.breakAt?_of_isBreak_eq_false h] at heq; cases heq
  · rfl

end Signs

end SourceBook.Comment
