import SourceBook.Path.Basic
import SourceBook.Text.Collation.Order
import SourceBook.Text.Lines

namespace SourceBook.Document

/-- A directory: the directories in it by name, and the names of its files, each in order of
arrival. A name may be both a directory's and a file's, and a file may occur more than once. -/
inductive Tree where
  | node (dirs : List (Text × Tree)) (files : List Text)

namespace Tree

def empty : Tree := node [] []

def dirs : Tree → List (Text × Tree)
  | node dirs _ => dirs

def files : Tree → List Text
  | node _ files => files

def alter (name : Text) (f : Tree → Tree) : List (Text × Tree) → List (Text × Tree)
  | [] => [(name, f empty)]
  | (other, tree) :: rest =>
    if other = name then (other, f tree) :: rest else (other, tree) :: alter name f rest

def insert : List Text → Tree → Tree
  | [], tree => tree
  | [file], node dirs files => node dirs (files ++ [file])
  | dir :: rest, node dirs files => node (alter dir (insert rest) dirs) files

def ofPaths (paths : List Text) : Tree :=
  paths.foldl (fun tree path => tree.insert (Path.names path)) empty

structure Block where
  name : Text
  label : Text
  below : List Text

def draw (branch rail : Text) (block : Block) : List Text :=
  (branch ++ block.label) :: block.below.map (rail ++ ·)

def drawAll : List Block → List Text
  | [] => []
  | [block] => draw "└── ".toList "    ".toList block
  | block :: rest => draw "├── ".toList "│   ".toList block ++ drawAll rest

variable [Text.Collation]

mutual

def lines : Tree → List Text
  | node dirs files => drawAll (Text.sortBy Block.name (blocks dirs) ++
      (Text.sort files).map fun file => ⟨file, file, []⟩)

def blocks : List (Text × Tree) → List Block
  | [] => []
  | (name, tree) :: rest => ⟨name, name ++ ['/'], lines tree⟩ :: blocks rest

end

def render (root : Text) (tree : Tree) : Text := Text.unlines ((root ++ ['/']) :: tree.lines)

end Tree

end SourceBook.Document
