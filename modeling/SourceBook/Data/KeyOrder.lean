import SourceBook.Data.Basic
import SourceBook.Text.Units

namespace SourceBook.Data

def indexBound : Nat := 0xFFFFFFFF

def index? (key : Text) : Option Nat :=
  let n := key.foldl (fun n c => n * 10 + (c.toNat - '0'.toNat)) 0
  -- Digits behind a leading zero are no index.
  if key.all Char.isDigit ∧ key = Number.digits n ∧ n < indexBound then some n else none

def compareKeys (a b : Text) : Ordering :=
  match index? a, index? b with
  | some m, some n => compare m n
  | some _, none => .lt
  | none, some _ => .gt
  | none, none => Text.compareUnits a b

/-- A key that names no entry: what is stored under it is lost. -/
def lostKey : Text := "__proto__".toList

def sortEntries {α : Type} (entries : List (Text × α)) : List (Text × α) :=
  (entries.filter fun entry => entry.1 != lostKey).mergeSort fun a b =>
    (compareKeys a.1 b.1).isLE

mutual

def sortKeys : Data → Data
  | list items => list (sortKeysItems items)
  | record entries => record (sortEntries (sortKeysEntries entries))
  | null => null
  | bool value => bool value
  | number value => number value
  | text value => text value

def sortKeysItems : List Data → List Data
  | [] => []
  | item :: rest => sortKeys item :: sortKeysItems rest

def sortKeysEntries : List (Text × Data) → List (Text × Data)
  | [] => []
  | (key, value) :: rest => (key, sortKeys value) :: sortKeysEntries rest

end

end SourceBook.Data
