import SourceBook.Path.Basic
import SourceBook.Text.Utf8

namespace SourceBook.Files

open Text (Bytes)

/-- A file system as a value. A link holds the path that takes its place. -/
inductive Node where
  | file (bytes : Bytes)
  | link (target : Text)
  | folder (entries : List (Text × Node))

inductive Fault where
  | missing
  | notFolder
  | isFolder
  | alreadyThere
  | tooManyLinks
  deriving DecidableEq, Repr

def Fault.text : Fault → String
  | missing => "ENOENT: no such file or directory"
  | notFolder => "ENOTDIR: not a directory"
  | isFolder => "EISDIR: illegal operation on a directory"
  | alreadyThere => "EEXIST: file already exists"
  | tooManyLinks => "ELOOP: too many symbolic links encountered"

def Fault.message (fault : Fault) (call : String) (path : Text) : Text :=
  fault.text.toList ++ ", ".toList ++ call.toList ++ " '".toList ++ path ++ ['\'']

namespace Node

def emptyFolder : Node := folder []

def at? : List Text → Node → Option Node
  | [], node => some node
  | name :: rest, folder entries => (entries.lookup name).bind (at? rest)
  | _ :: _, _ => none

def alter (name : Text) (f : Option Node → Node) : List (Text × Node) → List (Text × Node)
  | [] => [(name, f none)]
  | (other, node) :: rest =>
    if other = name then (other, f (some node)) :: rest else (other, node) :: alter name f rest

/-- The tree with a node put in a place. Folders on the way are made; what is not a folder stays. -/
def put : Node → List Text → Node → Node
  | _, [], new => new
  | folder entries, name :: rest, new =>
    folder (alter name (fun old => put (old.getD emptyFolder) rest new) entries)
  | node, _ :: _, _ => node

def linkLimit : Nat := 40

/-- Follows names from a place. The result is the place that they lead to; it need not exist, but the
folder that would hold it does. `limit` bounds the names still to be followed, links unfolded. -/
def follow (root : Node) : (limit links : Nat) → (place : Location) → List Text → Except Fault Location
  | 0, _, _, _ => .error .tooManyLinks
  | _ + 1, _, place, [] => .ok place
  | limit + 1, links, place, name :: rest =>
    match root.at? place with
    | none => .error .missing
    | some (folder entries) =>
      if name = Path.here then follow root limit links place rest
      else if name = Path.parent then follow root limit links place.dropLast rest
      else
        match entries.lookup name with
        | some (link target) =>
          if links = 0 then .error .tooManyLinks
          else
            let start := if Path.isAbsolute target then [] else place
            follow root limit (links - 1) start (Path.names target ++ rest)
        | _ => follow root limit links (place ++ [name]) rest
    | some _ => .error .notFolder

def locate (root : Node) (cwd : Location) (path : Text) : Except Fault Location :=
  let start := if Path.isAbsolute path then [] else cwd
  follow root (4096 + path.length) linkLimit start (Path.names path)

def read (root : Node) (cwd : Location) (path : Text) : Except Fault Node := do
  let place ← root.locate cwd path
  match root.at? place with
  | some node => return node
  | none => throw .missing

def enter (root : Node) (place : Location) (name : Text) : Except Fault (Node × Location) := do
  let next ← follow root 4096 linkLimit place [name]
  match root.at? next with
  | some (folder _) => return (root, next)
  | some _ => throw .notFolder
  | none => return (root.put next emptyFolder, next)

def makeFolder (root : Node) (cwd : Location) (path : Text) : Except Fault Node :=
  let start := if Path.isAbsolute path then [] else cwd
  let names := Path.names path
  match names.dropLast.foldlM (fun (root, place) name => enter root place name) (root, start),
    names.getLast? with
  | .error fault, _ => .error fault
  | .ok (root, _), none => .ok root
  | .ok (root, place), some last =>
    match enter root place last with
    | .error .notFolder => .error .alreadyThere
    | .error fault => .error fault
    | .ok (root, _) => .ok root

def writeFile (root : Node) (cwd : Location) (path : Text) (bytes : Bytes) : Except Fault Node := do
  if path.isEmpty then throw .missing
  let place ← root.locate cwd path
  let isFolderPath := path.getLast? == some '/' ||
    [Path.here, Path.parent].contains (Path.baseName path)
  match root.at? place with
  | some (folder _) => throw .isFolder
  | _ => if isFolderPath then throw .isFolder else return root.put place (file bytes)

def writeText (root : Node) (cwd : Location) (path text : Text) : Except (Text × Node) Node :=
  match root.makeFolder cwd (Path.folder path) with
  | .error fault => .error (fault.message "mkdir" (Path.folder path), root)
  | .ok made =>
    match made.writeFile cwd path (Text.encode text) with
    | .error fault => .error (fault.message "open" path, made)
    | .ok written => .ok written

mutual

def files (prune : Text → Bool) (path : List Text) : Node → List (List Text)
  | folder entries => filesIn prune path entries
  | _ => []
termination_by structural node => node

def filesIn (prune : Text → Bool) (path : List Text) : List (Text × Node) → List (List Text)
  | [] => []
  | entry :: rest => filesOf prune path entry ++ filesIn prune path rest
termination_by structural entries => entries

def filesOf (prune : Text → Bool) (path : List Text) : Text × Node → List (List Text)
  | (name, node) =>
    match node with
    | file _ => [path ++ [name]]
    | link _ => []
    | folder _ => if prune (Path.slashed (path ++ [name])) then [] else files prune (path ++ [name]) node
termination_by structural entry => entry

end

def contents (root : Node) (place : Location) : List (List Text × Bytes) :=
  match root.at? place with
  | none => []
  | some top =>
    (top.files (fun _ => false) []).filterMap fun path =>
      match top.at? path with
      | some (file bytes) => some (path, bytes)
      | _ => none

def changes (before after : Node) (place : Location) : List (List Text × Bytes) :=
  let old := before.contents place
  (after.contents place).filter fun (path, bytes) => old.lookup path != some bytes

end Node

end SourceBook.Files
