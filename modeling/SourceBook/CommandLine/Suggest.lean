import SourceBook.Text.Collation.Order
import SourceBook.Text.Units

namespace SourceBook.CommandLine

/-- Whether at most `n` edits lead from one list to the other, no two of them in the same place. -/
def within {α : Type} [DecidableEq α] : Nat → List α → List α → Bool
  | n, a, [] => a.length ≤ n
  | n, [], b => b.length ≤ n
  | 0, x :: a, y :: b => x = y && within 0 a b
  | n + 1, x :: a, y :: b =>
    (x = y && within (n + 1) a b) || within n a (y :: b) || within n (x :: a) b || within n a b ||
      match a, b with
      | x' :: a, y' :: b => x = y' && x' = y && within n a b
      | _, _ => false
  termination_by _ a b => a.length + b.length

def maxEdits : Nat := 3

/-- The number of edits from a word to a name, when the name is near enough: more than two fifths of
the longer of the two are left alone. -/
def edits? (word name : Text) : Option Nat :=
  let longer := max (Text.width word) (Text.width name)
  ((List.range (maxEdits + 1)).find? fun n => within n (Text.units word) (Text.units name)).filter
    fun n => 5 * n < 3 * longer

variable [Text.Collation]

def nearest (names : List Text) (word : Text) : List Text :=
  let near := names.filterMap fun name => (edits? word name).map fun n => (n, name)
  match (near.map Prod.fst).min? with
  | none => []
  | some least => Text.sort ((near.filter fun (n, _) => n = least).map Prod.snd)

def suggestion (spellings : List Text) : Text :=
  match spellings with
  | [] => []
  | [one] => "\n(Did you mean ".toList ++ one ++ "?)".toList
  | several => "\n(Did you mean one of ".toList ++ ", ".toList.intercalate several ++ "?)".toList

end SourceBook.CommandLine
