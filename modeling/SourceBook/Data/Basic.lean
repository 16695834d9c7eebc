import SourceBook.Number.Shortest

namespace SourceBook

inductive Data where
  | null
  | bool (value : Bool)
  | number (value : Number)
  | text (value : Text)
  | list (items : List Data)
  | record (entries : List (Text × Data))
deriving Inhabited

namespace Data

def get? (key : Text) : Data → Option Data
  | record entries => entries.lookup key
  | _ => none

def nat (n : Nat) : Data := number (.ofNat n)

def string (s : String) : Data := text s.toList

mutual

def plain : Data → Text
  | null => "null".toList
  | bool value => (if value then "true" else "false").toList
  | number value => value.text
  | text value => value
  | list items => [','].intercalate (plainItems items)
  | record _ => "[object Object]".toList

def plainItems : List Data → List Text
  | [] => []
  | null :: rest => [] :: plainItems rest
  | item :: rest => plain item :: plainItems rest

end

end Data

end SourceBook
