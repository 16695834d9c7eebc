import SourceBook.Data.KeyOrder

namespace SourceBook

structure Finding where
  kind : Text
  severity : Text
  message : Text
  file : Option Text := none
  deriving DecidableEq, Repr

namespace Finding

def tooLarge : Text := "skippedTooLarge".toList
def totalLimit : Text := "skippedTotalLimit".toList
def binary : Text := "skippedBinary".toList
def unreadable : Text := "skippedUnreadable".toList
def stripFailed : Text := "stripFailed".toList
def normalizeFailed : Text := "normalizeFailed".toList
def note : Text := "note".toList

def info : Text := "info".toList
def warning : Text := "warning".toList

def isSkip (finding : Finding) : Bool := Text.startsWith "skipped".toList finding.kind

def isWarning (finding : Finding) : Bool := finding.severity != info

def place (finding : Finding) : Text := finding.file.getD []

end Finding

abbrev Counts := List (Text × Nat)

def Counts.bump (name : Text) : Counts → Counts
  | [] => if name = Data.lostKey then [] else [(name, 1)]
  | (other, n) :: rest => if other = name then (other, n + 1) :: rest else (other, n) :: bump name rest

structure Report where
  tool : Text
  version : Text
  sourceRoot : Text
  startedAt : Text
  finishedAt : Text
  scanned : Nat
  exported : Nat
  skipped : Nat
  bytesRead : Nat
  byGrammar : Counts
  findings : List Finding
  deriving DecidableEq, Repr

namespace Report

def start (tool version sourceRoot now : Text) : Report :=
  { tool, version, sourceRoot, startedAt := now, finishedAt := now, scanned := 0, exported := 0,
    skipped := 0, bytesRead := 0, byGrammar := [], findings := [] }

def finish (report : Report) (now : Text) : Report := { report with finishedAt := now }

def record (report : Report) (finding : Finding) : Report :=
  { report with
    findings := report.findings ++ [finding]
    skipped := report.skipped + if finding.isSkip then 1 else 0 }

def countGrammar (report : Report) (grammar : Text) : Report :=
  { report with byGrammar := report.byGrammar.bump grammar }

def warnings (report : Report) : Nat := report.findings.countP Finding.isWarning

theorem findings_record (report : Report) (finding : Finding) :
    (report.record finding).findings = report.findings ++ [finding] := rfl

theorem warnings_record (report : Report) (finding : Finding) :
    (report.record finding).warnings = report.warnings + if finding.isWarning then 1 else 0 := by
  simp [warnings, record, List.countP_append, List.countP_cons]

end Report

end SourceBook
