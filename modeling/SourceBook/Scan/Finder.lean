import SourceBook.Files.Node
import SourceBook.Scan.Exclude

namespace SourceBook.Scan

open Files

inductive Failure where
  | pattern (fault : Glob.Fault)
  | folder (fault : Fault) (place : Text)
  deriving DecidableEq, Repr

def Failure.message : Failure → Text
  | pattern fault => fault.message
  | folder fault place => fault.message "scandir" place

/-- Looks for the files below a root that match a pattern and none of the patterns to ignore. -/
abbrev Finder :=
  Node → (cwd root : Location) → (wanted : Text) → (ignored : List Text) → Except Failure (List Text)

structure Patterns where
  wanted : List Glob.Pattern
  excludes : List Exclude

def Patterns.ofTexts (wanted : Text) (ignored : List Text) : Except Glob.Fault Patterns := do
  let wanted ← simplePatterns wanted
  let excludes ← Scan.excludes ignored
  return ⟨← wanted.mapM Glob.Pattern.ofText, excludes⟩

def matching (root : Location) (patterns : Patterns) (folder : Node) : List Text :=
  let files := (folder.files (prunes patterns.excludes) []).map Path.slashed
  files.filter fun path =>
    patterns.wanted.any (fun pattern => pattern.accepts (comparedPath path)) &&
      !leavesOut patterns.excludes root path

def scanPath (root : Location) : Text :=
  -- A backslash in the name of a folder is read as a slash.
  Text.replaceChar '\\' ['/'] (Path.absolute root)

/-- The finder that a run uses. A pattern that cannot be used is noticed first; nothing is found below a root
that does not exist, and a root that is a file cannot be searched. -/
def find : Finder := fun tree cwd root wanted ignored =>
  match Patterns.ofTexts wanted ignored with
  | .error fault => .error (.pattern fault)
  | .ok patterns =>
    match tree.read cwd (scanPath root) with
    | .error .missing => .ok []
    | .error fault => .error (.folder fault (scanPath root))
    | .ok (.folder entries) => .ok (matching root patterns (.folder entries))
    | .ok _ => .error (.folder .notFolder (scanPath root))

end SourceBook.Scan
