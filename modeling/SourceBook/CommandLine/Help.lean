import SourceBook.CommandLine.Switch
import SourceBook.Data.Printer
import SourceBook.Export.Project

namespace SourceBook.CommandLine

def helpWidth : Nat := 80

def purpose : String := "Export source trees into a single lint-clean Markdown document"

def Switch.description (switch : Switch) : Text :=
  switch.summary.toList ++ match switch.initial with
    | some value => " (default: ".toList ++ value.compact ++ [')']
    | none => []

def fillLines (width : Nat) (line : Text) : List Text → List Text
  | [] => [line]
  | word :: rest =>
    if line.length + 1 + word.length ≤ width then fillLines width (line ++ ' ' :: word) rest
    else line :: fillLines width word rest

def column (width : Nat) (text : Text) : List Text :=
  match text.splitOn ' ' with
  | [] => []
  | word :: rest => fillLines width word rest

def pad (width : Nat) (text : Text) : Text := text ++ List.replicate (width - text.length) ' '

def switchColumn (switches : List Switch) : Nat :=
  (switches.map fun switch => switch.usage.length).foldl max 0 + 2

def switchLines (left : Nat) (switch : Switch) : List Text :=
  let right := column (helpWidth - 1 - (2 + left)) switch.description
  List.zipWith (fun start line => "  ".toList ++ pad left start ++ line)
    (switch.usage :: List.replicate right.length []) right

def help : Text :=
  Text.unlines <|
    ["Usage: ".toList ++ Export.toolName ++ " [options]".toList, [], purpose.toList, [],
      "Options:".toList] ++
    shownSwitches.flatMap (switchLines (switchColumn shownSwitches)) ++ [[]]

end SourceBook.CommandLine
