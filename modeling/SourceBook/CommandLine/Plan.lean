import SourceBook.Path.Basic
import SourceBook.Text.Units

namespace SourceBook.CommandLine

structure Plan where
  source : Text
  out : Text
  report : Option Text
  deriving DecidableEq, Repr

def stem (cwd : Location) (source : Text) : Text :=
  (Path.resolve cwd source).getLast?.getD "root".toList

def stemsFrom (cwd : Location) (earlier : List Text) : List Text → List Text
  | [] => []
  | source :: rest =>
    let base := stem cwd source
    let n := earlier.count base + 1
    (if n = 1 then base else base ++ '-' :: (toString n).toList) ::
      stemsFrom cwd (base :: earlier) rest

def takeWidth : Nat → Text → Text
  | _, [] => []
  | n, c :: rest => if Text.charWidth c ≤ n then c :: takeWidth (n - Text.charWidth c) rest else []

def reportFor (report name : Text) : Text :=
  let extension := Path.extension report
  takeWidth (Text.width report - Text.width extension) report ++ '.' :: name ++ extension

/-- A single root is written to the output path itself. With several it is a folder, in which each root's
document has the name of its root. -/
def plans (cwd : Location) (sources : List Text) (out : Text) (report : Option Text) : List Plan :=
  match sources with
  | [source] => [⟨source, out, report⟩]
  | several =>
    List.zipWith (fun source name =>
      ⟨source, Path.join out (name ++ ".md".toList),
        (report.filter fun r => !r.isEmpty).map fun r => reportFor r name⟩)
      several (stemsFrom cwd [] several)

end SourceBook.CommandLine
