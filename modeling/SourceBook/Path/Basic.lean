import SourceBook.Text.Basic

namespace SourceBook

/-- A path from the root of the file system by its names: no empty one, no `.` and no `..`. -/
abbrev Location := List Text

namespace Path

def here : Text := ['.']
def parent : Text := ['.', '.']

def names (path : Text) : List Text := (path.splitOn '/').filter fun name => !name.isEmpty

def isAbsolute (path : Text) : Bool := path.head? == some '/'

/-- One name more behind a settled path, its names last first. A step up removes the last name; where
there is none it is kept if the path may leave its start. -/
def step (mayLeave : Bool) (settled : List Text) (name : Text) : List Text :=
  if name = here then settled
  else if name = parent then
    match settled with
    | [] => if mayLeave then [parent] else []
    | last :: rest => if last = parent then parent :: settled else rest
  else name :: settled

def settle (mayLeave : Bool) (path : List Text) : List Text :=
  (path.foldl (step mayLeave) []).reverse

def resolve (cwd : Location) (path : Text) : Location :=
  settle false (if isAbsolute path then names path else cwd ++ names path)

def slashed (path : List Text) : Text := ['/'].intercalate path

def absolute (location : Location) : Text := '/' :: slashed location

/-- The names on the way from one location to another: up to where the two part, and down from there. -/
def way : Location → Location → List Text
  | a :: origin, b :: target =>
    if a = b then way origin target else List.replicate (origin.length + 1) parent ++ b :: target
  | origin, target => List.replicate origin.length parent ++ target

def relative (origin target : Location) : Text := slashed (way origin target)

def normalize (path : Text) : Text :=
  let settled := settle (!isAbsolute path) (names path)
  let isFolder := path.getLast? == some '/'
  let body := if settled.isEmpty && !isAbsolute path then here else slashed settled
  (if isAbsolute path then ['/'] else []) ++ body ++
    (if isFolder && !(settled.isEmpty && isAbsolute path) then ['/'] else [])

def join (a b : Text) : Text :=
  normalize <| if a.isEmpty then b else if b.isEmpty then a else a ++ '/' :: b

def trimSlashes (path : Text) : Text := (path.reverse.dropWhile (· == '/')).reverse

def baseName (path : Text) : Text :=
  ((trimSlashes path).reverse.takeWhile (· != '/')).reverse

def folder (path : Text) : Text :=
  match (trimSlashes path).reverse.dropWhile (· != '/') with
  | [] => if isAbsolute path then ['/'] else here
  | [_] => ['/']
  | ['/', '/'] => ['/', '/']
  | _ :: head => head.reverse

def extension (path : Text) : Text :=
  let name := baseName path
  let tail := name.reverse.takeWhile (· != '.')
  if name = parent || name.length ≤ tail.length + 1 then [] else '.' :: tail.reverse

end Path

end SourceBook
