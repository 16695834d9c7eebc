import SourceBook.Number.Basic
import SourceBook.Scan.Finder
import SourceBook.Scan.Include

namespace SourceBook.Scan

open Files (Node)

structure Options where
  excludeGlobs : List Text := []
  includeTests : Bool := true
  extensions : List Text := []
  maxFiles : Option Number := none
  excludeFiles : List Text := []

def Options.ignored (options : Options) : List Text :=
  standardExcludes ++ options.excludeGlobs ++ if options.includeTests then [] else testExcludes

/-- The first entries up to a limit. A limit that is not positive is none. -/
def limited {α : Type} (limit : Option Number) (entries : List α) : List α :=
  match limit with
  | some n => if n.isPositive then entries.take (n.toNatUpTo entries.length) else entries
  | none => entries

def leadsBelow (path : Text) : Bool :=
  path != [] && path != Path.parent && !Text.startsWith (Path.parent ++ ['/']) path &&
    !Path.isAbsolute path

/-- The paths below a root at which one of the files stands. -/
def designated (cwd root : Location) (files : List Text) : List Text :=
  (files.map fun file => Path.relative root (Path.resolve cwd file)).filter leadsBelow

variable [Text.Collation]

def select (cwd root : Location) (options : Options) (found : List Text) : List Text :=
  let skipped := designated cwd root options.excludeFiles
  limited options.maxFiles (Text.sort (found.filter fun path => !skipped.contains path))

def sources (tree : Node) (cwd root : Location) (options : Options) (finder : Finder := find) :
    Except Failure (List Text) :=
  (finder tree cwd root (includePattern options.extensions) options.ignored).map
    (select cwd root options)

end SourceBook.Scan
