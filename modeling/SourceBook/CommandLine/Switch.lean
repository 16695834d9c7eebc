import SourceBook.Data.Basic

namespace SourceBook.CommandLine

inductive Follows where
  | nothing
  | value (name : String)
  | values (name : String)
  | maybe (name : String)
  deriving DecidableEq, Repr

def Follows.isMany : Follows → Bool
  | values _ => true
  | _ => false

structure Switch where
  name : String
  letter : Option Char := none
  follows : Follows := .nothing
  summary : String
  initial : Option Data := none
  required : Bool := false

def Switch.long (switch : Switch) : Text := '-' :: '-' :: switch.name.toList

def Switch.short? (switch : Switch) : Option Text := switch.letter.map fun c => ['-', c]

def Switch.isSpelt (switch : Switch) (word : Text) : Bool :=
  word = switch.long || some word = switch.short?

def Follows.usage : Follows → String
  | nothing => ""
  | value name => " <" ++ name ++ ">"
  | values name => " <" ++ name ++ "...>"
  | maybe name => " [" ++ name ++ "]"

def Switch.usage (switch : Switch) : Text :=
  (match switch.short? with
    | some short => short ++ ", ".toList
    | none => []) ++ switch.long ++ switch.follows.usage.toList

def versionSwitch : Switch where
  name := "version"
  letter := some 'V'
  summary := "output the version number"

def helpSwitch : Switch where
  name := "help"
  letter := some 'h'
  summary := "display help for command"

def switches : List Switch := [
  versionSwitch,
  { name := "source", follows := .values "path", required := true
    summary := "Root directory (or directories) to export" },
  { name := "out", follows := .value "path", required := true
    summary := "Output Markdown file; a folder when several roots are given" },
  { name := "exclude", follows := .values "glob", initial := some (.list [])
    summary := "Repeatable exclude globs (relative to each root)" },
  { name := "ext", follows := .values "ext", initial := some (.list [])
    summary := "Only export these extensions (default: every known one)" },
  { name := "include-tests", follows := .maybe "bool"
    summary := "Include test files (default true)" },
  { name := "max-files", follows := .value "n"
    summary := "Safety cap for huge trees (default no cap)" },
  { name := "max-file-size", follows := .value "kb"
    summary := "Skip files larger than this (default 1024, 0 = no limit)" },
  { name := "max-total-size", follows := .value "kb"
    summary := "Stop adding files past this total (default no limit)" },
  { name := "strip-comments", follows := .maybe "bool"
    summary := "Strip comments from source files (default true)" },
  { name := "line-numbers", follows := .maybe "bool"
    summary := "Prefix code lines with line numbers (default false)" },
  { name := "tree", follows := .maybe "bool"
    summary := "Include a directory tree (default true)" },
  { name := "toc", follows := .maybe "bool"
    summary := "Include a table of contents (default true)" },
  { name := "normalize", follows := .maybe "bool"
    summary := "Normalize the Markdown output (default true)" },
  { name := "dedupe-headings", follows := .maybe "bool"
    summary := "Suffix repeated headings with (1), (2), ... (default false)" },
  { name := "report", follows := .value "file", initial := some (.text [])
    summary := "Optional summary report path" },
  { name := "report-format", follows := .value "format", initial := some (.string "md")
    summary := "md|json" },
  { name := "fail-on-warnings", follows := .maybe "bool"
    summary := "Exit with code 3 when files were skipped or a pass failed (default false)" },
  { name := "verbose", letter := some 'v', initial := some (.bool false)
    summary := "Verbose logging" }]

def shownSwitches : List Switch := switches ++ [helpSwitch]

end SourceBook.CommandLine
