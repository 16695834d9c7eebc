import SourceBook.Document.Contents
import SourceBook.Document.Listing
import SourceBook.Document.Tree
import SourceBook.Markdown.Normalize

namespace SourceBook.Document

structure Entry where
  path : Text
  extension : Text
  content : Text
  deriving DecidableEq, Repr

structure Parts where
  tree : Bool := true
  contents : Bool := true
  lineNumbers : Bool := false
  deriving DecidableEq, Repr

def code (parts : Parts) (entry : Entry) : Text :=
  let body := dropEndBreaks entry.content
  if parts.lineNumbers then numberLines body else body

variable [Text.Collation]

def treeSection (root : Text) (paths : List Text) : List Text :=
  ["## Directory Structure".toList, [], "```text".toList,
    Tree.render root (Tree.ofPaths paths), "```".toList, []]

def contentsSection (paths : List Text) : List Text :=
  ["## Table of Contents".toList, [], contents paths, []]

def fileSection (parts : Parts) (entry : Entry) : List Text :=
  let body := code parts entry
  ["### ".toList ++ entry.path, [], fence body ++ language entry.extension, body, fence body, []]

def filesSection (parts : Parts) (entries : List Entry) : List Text :=
  ["## Files".toList, []] ++
    (if entries.isEmpty then ["_No files exported._".toList, []] else []) ++
    entries.flatMap (fileSection parts)

def assemble (root : Text) (parts : Parts) (entries : List Entry) : Text :=
  let paths := entries.map Entry.path
  Text.unlines <|
    ["# ".toList ++ Markdown.defaultTitle ++ ": ".toList ++ root, []] ++
    (if parts.tree then treeSection root paths else []) ++
    (if parts.contents && !paths.isEmpty then contentsSection paths else []) ++
    filesSection parts entries

end SourceBook.Document
