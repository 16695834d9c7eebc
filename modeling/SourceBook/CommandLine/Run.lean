import SourceBook.CommandLine.Arguments
import SourceBook.CommandLine.Help
import SourceBook.CommandLine.Plan
import SourceBook.Report.Json
import SourceBook.Report.Markdown

namespace SourceBook.CommandLine

open Export (Surroundings Exported)
open Files (Node)

structure Progress where
  tree : Node
  done : List (Plan × Exported) := []

structure Ended where
  code : Nat
  output : Text := []
  errors : Text := []
  tree : Node

-- The exit codes.
def misused : Nat := 1
def failed : Nat := 2
def warned : Nat := 3

variable [Text.Collation]

def ReportFormat.text (format : ReportFormat) (report : Report) : Text :=
  match format with
  | .json => report.toJson
  | .markdown => report.toMarkdown

def Plan.reportPath? (plan : Plan) : Option Text := plan.report.filter fun path => !path.isEmpty

def Plan.outputs (plan : Plan) : List Text := plan.out :: plan.reportPath?.toList

def Plan.options (plan : Plan) (options : Export.Options) : Export.Options :=
  { options with scan := { options.scan with excludeFiles := plan.outputs } }

def Plan.story (plan : Plan) (report : Report) : Text :=
  let count (n : Nat) : Text := (Number.ofNat n).text
  "Exported ".toList ++ count report.exported ++ " of ".toList ++ count report.scanned ++
    " file(s) from ".toList ++ report.sourceRoot ++ " (skipped: ".toList ++ count report.skipped ++
    "). Wrote: ".toList ++ plan.out ++ ['\n'] ++
    match plan.reportPath? with
    | some path =>
      "Wrote report: ".toList ++ path ++ " (warnings: ".toList ++ count report.warnings ++ ")\n".toList
    | none => []

def Plan.write (plan : Plan) (cwd : Location) (format : ReportFormat) (exported : Exported)
    (tree : Node) : Except (Text × Node) Node := do
  let written ← tree.writeText cwd plan.out exported.markdown
  match plan.reportPath? with
  | some path => written.writeText cwd path (format.text exported.report)
  | none => return written

/-- Exports one root and writes its files. On failure the message comes with what was left. -/
def Plan.carryOut (plan : Plan) (run : RunOptions) (around : Surroundings) (before : Progress) :
    Except (Text × Progress) Progress :=
  match Export.project { around with tree := before.tree } (plan.options run.exporting) plan.source with
  | .error failure => .error (failure.message, before)
  | .ok exported =>
    match plan.write around.cwd run.reportFormat exported before.tree with
    | .error (message, tree) => .error (message, { before with tree })
    | .ok tree => .ok ⟨tree, before.done ++ [(plan, exported)]⟩

/-- A root may see what was written for the roots before it; a failure takes nothing of that back. -/
def carryOutAll (run : RunOptions) (around : Surroundings) (plans : List Plan) :
    Except (Text × Progress) Progress :=
  plans.foldlM (fun progress plan => plan.carryOut run around progress) { tree := around.tree }

def Progress.output (progress : Progress) (run : RunOptions) : Text :=
  if run.verbose then progress.done.flatMap fun (plan, exported) => plan.story exported.report else []

def Progress.warnings (progress : Progress) : Nat :=
  progress.done.foldr (fun (_, exported) total => exported.report.warnings + total) 0

def RunOptions.start (run : RunOptions) (around : Surroundings) : Ended :=
  match carryOutAll run around (plans around.cwd run.sources run.out run.report) with
  | .ok progress =>
    { code := if run.failOnWarnings && 0 < progress.warnings then warned else 0
      output := progress.output run, tree := progress.tree }
  | .error (message, progress) =>
    { code := failed, output := progress.output run, errors := message ++ ['\n'], tree := progress.tree }

def needsFiles (words : List Text) : Bool :=
  match request words with
  | .ok (.export _) => true
  | _ => false

def run (around : Surroundings) (words : List Text) : Ended :=
  match request words with
  | .error misuse => { code := misused, errors := misuse.message ++ ['\n'], tree := around.tree }
  | .ok .version => { code := 0, output := Export.toolVersion ++ ['\n'], tree := around.tree }
  | .ok .help => { code := 0, output := help, tree := around.tree }
  | .ok (.export given) => given.runOptions.start around

end SourceBook.CommandLine
