import SourceBook.CommandLine.Options
import SourceBook.CommandLine.Spelling
import SourceBook.CommandLine.Suggest

namespace SourceBook.CommandLine

inductive Misuse where
  | missingValue (switch : Switch)
  | missingSwitch (switch : Switch)
  | unknownSwitch (word : Text)

inductive Request where
  | version
  | help
  | export (given : Given)

variable [Text.Collation]

def suggestions (word : Text) : List Text :=
  match Text.after? dashes word with
  | some name =>
    (nearest (shownSwitches.map fun switch => switch.name.toList) name).map fun near => dashes ++ near
  | none => []

def quoted (text : Text) : Text := '\'' :: text ++ ['\'']

def Misuse.message : Misuse → Text
  | missingValue switch =>
    "error: option ".toList ++ quoted switch.usage ++ " argument missing".toList
  | missingSwitch switch =>
    "error: required option ".toList ++ quoted switch.usage ++ " not specified".toList
  | unknownSwitch word =>
    "error: unknown option ".toList ++ quoted word ++ suggestion (suggestions word)

end SourceBook.CommandLine
