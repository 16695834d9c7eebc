import SourceBook.Text.Basic
import Std.Time.DateTime

namespace SourceBook

structure Instant where
  milliseconds : Nat

namespace Instant

def digits (width n : Nat) : Text := (toString n).toList.leftpad width '0'

def text (instant : Instant) : Text :=
  let seconds := instant.milliseconds / 1000
  let date := Std.Time.PlainDate.ofEpochDay (.ofInt (seconds / 86400 : Nat))
  digits 4 date.year.toInt.toNat ++ '-' :: digits 2 date.month.val.toNat ++
    '-' :: digits 2 date.day.val.toNat ++
    'T' :: digits 2 (seconds / 3600 % 24) ++ ':' :: digits 2 (seconds / 60 % 60) ++
    ':' :: digits 2 (seconds % 60) ++ '.' :: digits 3 (instant.milliseconds % 1000) ++ ['Z']

end Instant

end SourceBook
