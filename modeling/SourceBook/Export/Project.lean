import SourceBook.Export.Intake
import SourceBook.Markdown.Distinct
import SourceBook.Scan.Sources

namespace SourceBook.Export

open Files (Node)
open Markdown (Pass)

def toolName : Text := "code-export-md".toList
def toolVersion : Text := "0.1.0".toList

structure Options where
  scan : Scan.Options := {}
  intake : IntakeOptions := {}
  parts : Document.Parts := {}
  normalize : Bool := true
  distinguish : Bool := false

/-- What an export finds around it: the files, the working directory, the time, how files are found, and
the lexers and passes in use. `unreadable` gives the messages of files that cannot be read, by their
places. -/
structure Surroundings where
  tree : Node
  cwd : Location
  now : Text
  finder : Scan.Finder := Scan.find
  lexers : Comment.Lexers := Comment.standardLexers
  passes : List Pass := Markdown.normalizePasses
  distinguishPass : Pass := Markdown.distinguishPass
  unreadable : Location → Option Text := fun _ => none

structure Exported where
  entries : List Document.Entry
  markdown : Text
  report : Report

def Surroundings.read (around : Surroundings) (root : Location) (path : Text) :
    Except Text Text.Bytes :=
  let place := root ++ Path.names path
  match around.unreadable place with
  | some message => .error message
  | none =>
    match around.tree.read around.cwd (Path.absolute place) with
    | .ok (.file bytes) => .ok bytes
    | .ok _ => .error (Files.Fault.isFolder.text ++ ", read").toList
    | .error fault => .error (fault.message "open" (Path.absolute place))

def rootName (root : Location) : Text := root.getLast?.getD ['/']

def finishingPasses (around : Surroundings) (options : Options) : List Pass :=
  (if options.normalize then around.passes else []) ++
    if options.distinguish then [around.distinguishPass] else []

def closeIntake (options : Options) (taken : Intake) : Report :=
  let report := { taken.report with exported := taken.entries.length, bytesRead := taken.bytes }
  if options.intake.stripComments then report
  else report.record { kind := Finding.note, severity := Finding.info,
                       message := "Comment stripping disabled".toList }

def recordPassWarning (report : Report) (message : Text) : Report :=
  report.record { kind := Finding.normalizeFailed, severity := Finding.warning, message }

variable [Text.Collation]

def ofPaths (around : Surroundings) (options : Options) (root : Location) (paths : List Text) :
    Exported :=
  let started := Report.start toolName toolVersion (Path.absolute root) around.now
  let taken := intake around.lexers (around.read root) options.intake
    { started with scanned := paths.length } paths
  let raw := Document.assemble (rootName root) options.parts taken.entries
  let finished := Markdown.runPasses (finishingPasses around options) raw
  let report := finished.warnings.foldl recordPassWarning (closeIntake options taken)
  ⟨taken.entries, finished.content, report.finish around.now⟩

def Surroundings.sources (around : Surroundings) (root : Location) (options : Scan.Options) :
    Except Scan.Failure (List Text) :=
  Scan.sources around.tree around.cwd root options around.finder

def project (around : Surroundings) (options : Options) (source : Text) :
    Except Scan.Failure Exported :=
  let root := Path.resolve around.cwd source
  (around.sources root options.scan).map (ofPaths around options root)

end SourceBook.Export
