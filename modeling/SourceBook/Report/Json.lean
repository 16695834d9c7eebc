import SourceBook.Data.Printer
import SourceBook.Report.Basic

namespace SourceBook.Report

def schema : String := "export-report-v1"

def findingData (finding : Finding) : Data :=
  .record <| [("kind".toList, .text finding.kind), ("severity".toList, .text finding.severity),
      ("message".toList, .text finding.message)] ++
    match finding.file with
    | some file => [("location".toList, .record [("file".toList, .text file)])]
    | none => []

def toData (report : Report) : Data :=
  .record [
    ("schema".toList, .string schema),
    ("tool".toList, .record [("name".toList, .text report.tool),
      ("version".toList, .text report.version)]),
    ("sourceRoot".toList, .text report.sourceRoot),
    ("startedAtIso".toList, .text report.startedAt),
    ("finishedAtIso".toList, .text report.finishedAt),
    ("filesScanned".toList, .nat report.scanned),
    ("filesExported".toList, .nat report.exported),
    ("filesSkipped".toList, .nat report.skipped),
    ("bytesRead".toList, .nat report.bytesRead),
    ("counts".toList, .record [("filesByGrammar".toList,
      .record (report.byGrammar.map fun (name, n) => (name, .nat n)))]),
    ("findings".toList, .list (report.findings.map findingData))]

def toJson (report : Report) : Text := report.toData.stableText 2

end SourceBook.Report
