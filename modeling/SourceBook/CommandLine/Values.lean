import SourceBook.Data.Basic
import SourceBook.Number.Reading
import SourceBook.Text.LowerCase

namespace SourceBook.CommandLine

def yesWords : List Text := ["1", "true", "yes", "y", "on"].map String.toList

def noWords : List Text := ["0", "false", "no", "n", "off"].map String.toList

def truth (value : Option Data) (default : Bool) : Bool :=
  match value with
  | none | some .null => default
  | some (.bool b) => b
  | some other =>
    let word := Text.lowerCase (Text.trim other.plain)
    if word.isEmpty || yesWords.contains word then true
    else if noWords.contains word then false
    else default

def numberOf? : Data → Option Number
  | .null => some (.ofNat 0)
  | .bool b => some (.ofNat (if b then 1 else 0))
  | .number n => some n
  | other => Number.ofText? other.plain

def integer? (value : Option Data) : Option Number :=
  match value with
  | none | some .null | some (.text []) => none
  | some other =>
    match numberOf? other with
    | some (.finite q) => some (Number.finite q).truncate
    | _ => none

/-- A size given in units of 1024 bytes. Zero and less mean that there is no limit. -/
def byteLimit? (value : Option Data) : Option Number :=
  (integer? value).bind fun n => if n.isPositive then some (n.times 1024) else none

end SourceBook.CommandLine
