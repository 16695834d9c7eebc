import SourceBook.CommandLine.Run
import SourceBook.Instant

namespace SourceBook.CommandLine

open Export (Surroundings)
open Files (Node)

def linesOf (stream : IO.FS.Stream) : IO (List Text) := do
  let mut found : Array Text := #[]
  let mut line ← stream.getLine
  while !line.isEmpty do
    found := found.push (line.toList.filter (· != '\n'))
    line ← stream.getLine
  return found.toList

/-- Adds what stands at a path. A file that cannot be read stays empty, with its message beside it. -/
def see (around : Surroundings) (path : Text) : IO Surroundings := do
  let place := Path.resolve around.cwd path
  if path.getLast? == some '/' then
    return match around.tree.at? place with
      | some _ => around
      | none => { around with tree := around.tree.put place .emptyFolder }
  match ← (IO.FS.readBinFile (String.ofList path)).toBaseIO with
  | .ok bytes => return { around with tree := around.tree.put place (.file bytes.toList) }
  | .error e =>
    return { around with
      tree := around.tree.put place (.file [])
      unreadable := fun other =>
        if other = place then some (toString e).toList else around.unreadable other }

/-- Standard input lists the files that a run may see, one path a line; that of a folder ends in a slash. -/
def lookAround (words : List Text) : IO Surroundings := do
  let cwd := Path.resolve [] (toString (← IO.currentDir)).toList
  let now ← Std.Time.Timestamp.now
  let instant : Instant := ⟨now.toMillisecondsSinceUnixEpoch.val.toNat⟩
  let paths ← if needsFiles words then linesOf (← IO.getStdin) else pure []
  let start : Surroundings :=
    { tree := Node.emptyFolder.put cwd .emptyFolder, cwd, now := instant.text }
  (paths.filter fun path => !path.isEmpty).foldlM see start

def store (before after : Node) : IO Unit :=
  (before.changes after []).forM fun (place, bytes) => do
    IO.FS.createDirAll (String.ofList (Path.absolute place.dropLast))
    IO.FS.writeBinFile (String.ofList (Path.absolute place)) ⟨bytes.toArray⟩

def carryOut (words : List Text) : IO UInt32 := do
  let around ← lookAround words
  let ended := run around words
  store around.tree ended.tree
  IO.print (String.ofList ended.output)
  IO.eprint (String.ofList ended.errors)
  return ended.code.toUInt32

end SourceBook.CommandLine

def main (words : List String) : IO UInt32 := do
  match ← (SourceBook.CommandLine.carryOut (words.map String.toList)).toBaseIO with
  | .ok code => return code
  | .error e =>
    IO.eprintln (toString e)
    return SourceBook.CommandLine.failed.toUInt32
