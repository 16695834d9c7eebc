import SourceBook.Number.Shortest
import SourceBook.Report.Basic
import SourceBook.Text.Collation.Order
import SourceBook.Text.Lines

namespace SourceBook.Report

def cell (text : Text) : Text := Text.replaceChar '|' ['\\', '|'] text

def figure (label : String) (n : Nat) : Text :=
  "- ".toList ++ label.toList ++ ": **".toList ++ (Number.ofNat n).text ++ "**".toList

def countRow (name : Text) (n : Nat) : Text :=
  "| ".toList ++ name ++ " | ".toList ++ (Number.ofNat n).text ++ " |".toList

variable [Text.Collation]

def countTable (counts : Counts) : List Text :=
  ["| Kind | Count |".toList, "|---|---:|".toList] ++
    (Text.sortBy Prod.fst counts).map (fun (name, n) => countRow name n) ++
    (if counts.isEmpty then ["| (none) | 0 |".toList] else []) ++ [[]]

def kindCounts (findings : List Finding) : Counts :=
  findings.foldl (fun counts finding => counts.bump finding.kind) []

def sortFindings (findings : List Finding) : List Finding :=
  Text.sortBy Finding.kind (Text.sortBy Finding.place (Text.sortBy Finding.message findings))

def findingRow (finding : Finding) : Text :=
  "| ".toList ++ finding.severity ++ " | ".toList ++ finding.kind ++ " | ".toList ++
    cell finding.place ++ " | ".toList ++ cell finding.message ++ " |".toList

def findingTable (findings : List Finding) : List Text :=
  ["| Severity | Kind | Location | Message |".toList, "|---|---|---|---|".toList] ++
    (sortFindings findings).map findingRow ++
    (if findings.isEmpty then ["| (none) | (none) | | |".toList] else []) ++ [[]]

def markdownLines (report : Report) : List Text :=
  ["# Export report".toList, [],
    "- Tool: **".toList ++ report.tool ++ "** ".toList ++ report.version,
    "- Source root: `".toList ++ report.sourceRoot ++ "`".toList,
    "- Started: ".toList ++ report.startedAt,
    "- Finished: ".toList ++ report.finishedAt,
    figure "Files scanned" report.scanned,
    figure "Files exported" report.exported,
    figure "Files skipped" report.skipped,
    figure "Bytes read" report.bytesRead, [],
    "## Files by grammar".toList, []] ++ countTable report.byGrammar ++
  ["## Findings summary".toList, []] ++ countTable (kindCounts report.findings) ++
  ["## All findings".toList, []] ++ findingTable report.findings

def toMarkdown (report : Report) : Text := Text.unlines report.markdownLines

end SourceBook.Report
