import SourceBook.Text.Blank
import SourceBook.Text.Lines

namespace SourceBook.Markdown

inductive LineKind where
  | text
  | fence
  | code
  deriving DecidableEq, Repr

def tick : Char := '\x60'

def fenceMark? (line : Text) : Option (Nat × Text) :=
  let ticks := line.takeWhile (· == tick)
  let rest := line.dropWhile (· == tick)
  if 3 ≤ ticks.length ∧ !rest.any Text.isLineEnd then some (ticks.length, rest) else none

/-- The length of the fence that a line opens. Its rest holds no backtick, so a code span is not
taken for a fence. -/
def opens? (line : Text) : Option Nat :=
  match fenceMark? line with
  | some (length, rest) => if rest.contains tick then none else some length
  | none => none

def closes (length : Nat) (line : Text) : Bool :=
  match fenceMark? line with
  | some (own, rest) => length ≤ own && Text.allBlank rest
  | none => false

def kindAt (fence : Option Nat) (line : Text) : LineKind × Option Nat :=
  match fence with
  | none =>
    match opens? line with
    | some length => (.fence, some length)
    | none => (.text, none)
  | some length => if closes length line then (.fence, none) else (.code, some length)

def kindsFrom : Option Nat → List Text → List LineKind
  | _, [] => []
  | fence, line :: rest =>
    let (kind, after) := kindAt fence line
    kind :: kindsFrom after rest

/-- The kind of each line. A fence that is never closed runs to the end. -/
def kinds (lines : List Text) : List LineKind := kindsFrom none lines

def kinded (lines : List Text) : List (Text × LineKind) := lines.zip (kinds lines)

theorem length_kindsFrom (fence : Option Nat) (lines : List Text) :
    (kindsFrom fence lines).length = lines.length := by
  induction lines generalizing fence with
  | nil => rfl
  | cons line rest ih => simp [kindsFrom, ih]

end SourceBook.Markdown
