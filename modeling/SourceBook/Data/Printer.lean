import SourceBook.Data.KeyOrder

namespace SourceBook.Data

def hexDigit (n : Nat) : Char := (Nat.digitChar (n % 16))

def escape (c : Char) : Text :=
  if c = '"' then ['\\', '"']
  else if c = '\\' then ['\\', '\\']
  else if c = '\n' then ['\\', 'n']
  else if c = '\r' then ['\\', 'r']
  else if c = '\t' then ['\\', 't']
  else if c.toNat = 8 then ['\\', 'b']
  else if c.toNat = 12 then ['\\', 'f']
  else if c.toNat < 32 then ['\\', 'u', '0', '0', hexDigit (c.toNat / 16), hexDigit c.toNat]
  else [c]

def quoted (value : Text) : Text := '"' :: value.flatMap escape ++ ['"']

def bracketed (indent : Text) (depth : Nat) (opening closing : Char) (items : List Text) : Text :=
  match items with
  | [] => [opening, closing]
  | items =>
    let gap (depth : Nat) : Text :=
      if indent.isEmpty then [] else '\n' :: (List.replicate depth indent).flatten
    opening :: gap (depth + 1) ++ (',' :: gap (depth + 1)).intercalate items ++ gap depth ++ [closing]

mutual

def printAt (indent : Text) (depth : Nat) : Data → Text
  | null => "null".toList
  | bool value => (if value then "true" else "false").toList
  | number (.finite q) => (Number.finite q).text
  | number (.infinite _) => "null".toList
  | text value => quoted value
  | list items => bracketed indent depth '[' ']' (printItems indent (depth + 1) items)
  | record entries => bracketed indent depth '\x7b' '\x7d' (printEntries indent (depth + 1) entries)

def printItems (indent : Text) (depth : Nat) : List Data → List Text
  | [] => []
  | item :: rest => printAt indent depth item :: printItems indent depth rest

def printEntries (indent : Text) (depth : Nat) : List (Text × Data) → List Text
  | [] => []
  | (key, value) :: rest =>
    (quoted key ++ (if indent.isEmpty then [':'] else [':', ' ']) ++ printAt indent depth value) ::
      printEntries indent depth rest

end

def compact (value : Data) : Text := printAt [] 0 value

def maxIndent : Nat := 10

/-- The text of a value that depends on the data alone: keys in order, and a line feed at the end. An
indentation that is no natural number counts as the one it is cut to, zero when it is negative. -/
def stableText (value : Data) (indent : Nat) : Text :=
  printAt (List.replicate (min maxIndent indent) ' ') 0 (sortKeys value) ++ ['\n']

end SourceBook.Data
