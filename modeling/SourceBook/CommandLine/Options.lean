import SourceBook.CommandLine.Values
import SourceBook.Export.Project

namespace SourceBook.CommandLine

inductive ReportFormat where
  | json
  | markdown
  deriving DecidableEq, Repr

structure Given where
  source : Option (List Text) := none
  out : Option Text := none
  exclude : Option (List Text) := none
  ext : Option (List Text) := none
  includeTests : Option Data := none
  maxFiles : Option Data := none
  maxFileSize : Option Data := none
  maxTotalSize : Option Data := none
  stripComments : Option Data := none
  lineNumbers : Option Data := none
  tree : Option Data := none
  toc : Option Data := none
  normalize : Option Data := none
  dedupeHeadings : Option Data := none
  report : Option Text := none
  reportFormat : Option Data := none
  failOnWarnings : Option Data := none
  verbose : Bool := false

structure RunOptions where
  sources : List Text
  out : Text
  exporting : Export.Options
  report : Option Text
  reportFormat : ReportFormat
  failOnWarnings : Bool
  verbose : Bool

def defaultMaxFileSize : Nat := 1024

def given? (value : Option Data) : Option Data :=
  match value with
  | some .null => none
  | other => other

def Given.format (given : Given) : ReportFormat :=
  match given? given.reportFormat with
  | some value => if Text.lowerCase value.plain = "json".toList then .json else .markdown
  | none => .markdown

def Given.exportOptions (given : Given) : Export.Options where
  scan := {
    excludeGlobs := given.exclude.getD []
    includeTests := truth given.includeTests true
    extensions := given.ext.getD []
    maxFiles := integer? given.maxFiles }
  intake := {
    maxFileBytes := byteLimit? (some ((given? given.maxFileSize).getD (.nat defaultMaxFileSize)))
    maxTotalBytes := byteLimit? given.maxTotalSize
    stripComments := truth given.stripComments true }
  parts := {
    tree := truth given.tree true
    contents := truth given.toc true
    lineNumbers := truth given.lineNumbers false }
  normalize := truth given.normalize true
  distinguish := truth given.dedupeHeadings false

def Given.runOptions (given : Given) : RunOptions where
  sources := given.source.getD []
  out := given.out.getD []
  exporting := given.exportOptions
  report := given.report.filter fun path => !Text.allBlank path
  reportFormat := given.format
  failOnWarnings := truth given.failOnWarnings false
  verbose := given.verbose

end SourceBook.CommandLine
