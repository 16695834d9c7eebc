import SourceBook.Number.Basic
import SourceBook.Text.Blank

namespace SourceBook.Number

def digitValue? (base : Nat) (c : Char) : Option Nat :=
  let value :=
    if c.isDigit then c.toNat - '0'.toNat
    else if 'a' ≤ c ∧ c ≤ 'z' then c.toNat - 'a'.toNat + 10
    else if 'A' ≤ c ∧ c ≤ 'Z' then c.toNat - 'A'.toNat + 10
    else base
  if value < base then some value else none

def whole? (base : Nat) (text : Text) : Option Nat :=
  if text.isEmpty then none
  else text.foldlM (fun n c => (digitValue? base c).map (n * base + ·)) 0

def sign : Text → Bool × Text
  | '-' :: rest => (true, rest)
  | '+' :: rest => (false, rest)
  | text => (false, text)

def exponent? : Text → Option Int
  | [] => some 0
  | e :: rest =>
    if e = 'e' ∨ e = 'E' then
      let (negative, ds) := sign rest
      (whole? 10 ds).map fun n => if negative then -(n : Int) else n
    else none

def unsigned? (negative : Bool) (text : Text) : Option Number :=
  if text = "Infinity".toList then some (.infinite negative)
  else
    let left := text.takeWhile Char.isDigit
    let afterLeft := text.dropWhile Char.isDigit
    let (right, tail) := match afterLeft with
      | '.' :: rest => (rest.takeWhile Char.isDigit, rest.dropWhile Char.isDigit)
      | rest => ([], rest)
    match whole? 10 (left ++ right), exponent? tail with
    | some n, some e => some (ofDecimal negative n (e - (right.length : Int)))
    | _, _ => none

def ofText? (text : Text) : Option Number :=
  match Text.trim text with
  | [] => some (.finite 0)
  | '0' :: mark :: rest =>
    if mark = 'x' ∨ mark = 'X' then (whole? 16 rest).map ofNat
    else if mark = 'o' ∨ mark = 'O' then (whole? 8 rest).map ofNat
    else if mark = 'b' ∨ mark = 'B' then (whole? 2 rest).map ofNat
    else unsigned? false ('0' :: mark :: rest)
  | trimmed =>
    let (negative, rest) := sign trimmed
    unsigned? negative rest

end SourceBook.Number
