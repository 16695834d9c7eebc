import SourceBook.Glob.Braces.Expansion
import SourceBook.Glob.Pattern
import SourceBook.Path.Basic

namespace SourceBook.Scan

open Glob

def standardExcludes : List Text :=
  ["**/node_modules/**", "**/.git/**", "**/.hg/**", "**/.svn/**", "**/dist/**", "**/build/**",
    "**/out/**", "**/bin/**", "**/obj/**", "**/target/**", "**/coverage/**", "**/.next/**",
    "**/.cache/**", "**/.venv/**", "**/venv/**", "**/__pycache__/**", "**/.idea/**", "**/.vs/**",
    "**/.vscode/**", "**/*.min.js", "**/*.min.css", "**/package-lock.json", "**/yarn.lock",
    "**/pnpm-lock.yaml"].map String.toList

def testExcludes : List Text :=
  ["**/__tests__/**", "**/*.test.*", "**/*.spec.*", "**/test/**", "**/tests/**", "**/test_*.py",
    "**/*_test.go", "**/*.Tests.ps1"].map String.toList

def singleSlashes : Text → Text
  | [] => []
  -- The first character stands for itself, whatever it is.
  | c :: rest => c :: ((' ' :: rest).zip rest).filterMap fun (before, d) =>
      if d = '/' ∧ before = '/' then none else some d

def simplePatterns (pattern : Text) : Except Fault (List Text) :=
  (Braces.expand pattern).map fun patterns =>
    (patterns.filter fun p => !p.isEmpty).map singleSlashes

def unturned : Text → Text
  | '!' :: '(' :: rest => '!' :: '(' :: rest
  | '!' :: rest => rest
  | pattern => pattern

def hasSet : Text → Bool
  | [] => false
  | c :: rest => (c = '[' && (rest.takeWhile (· != '[')).contains ']') || hasSet rest

def hasBarAndClose : Text → Bool
  | [] => false
  | c :: rest =>
    c != '(' && ((c == '|' && (rest.takeWhile (· != '|')).contains ')') || hasBarAndClose rest)

def hasGroup (before : Option Char) : Text → Bool
  | [] => false
  | c :: rest =>
    let signed := before.any fun b => "!*+?@".toList.contains b
    let closed := if signed then (rest.takeWhile (· != '(')).contains ')' else hasBarAndClose rest
    (c = '(' && closed) || hasGroup (some c) rest

def hasBraceChoice (name : Text) : Bool :=
  match name.dropWhile (· != '\x7b') with
  | [] => false
  | _ :: rest =>
    let inner := rest.takeWhile (· != '\x7d')
    inner.length < rest.length && (inner.contains ',' || Text.includes ['.', '.'] inner)

def isPlain (name : Text) : Bool :=
  !(name.any fun c => c == '*' || c == '?' || c == '\\') && name.head? != some '!' &&
    !hasSet name && !hasGroup none name && !hasBraceChoice name

def endsInDoubleStar (pattern : Text) : Bool := Text.startsWith ['*', '*', '/'] pattern.reverse

structure Exclude where
  pattern : Pattern
  isAbsolute : Bool
  prunes : Bool

def Exclude.ofText (text : Text) : Except Fault Exclude :=
  (Pattern.ofText text).map fun pattern =>
    { pattern
      isAbsolute := Path.isAbsolute text
      prunes := endsInDoubleStar text || isPlain (Path.baseName text) }

def excludes (patterns : List Text) : Except Fault (List Exclude) := do
  let simple ← patterns.mapM simplePatterns
  (simple.flatten.map unturned).mapM Exclude.ofText

def comparedPath (path : Text) : Text :=
  match path with
  | '.' :: '\\' :: rest => rest
  | _ => path

def prunes (excludes : List Exclude) (path : Text) : Bool :=
  excludes.any fun e => e.prunes && e.pattern.accepts (comparedPath path)

def leavesOut (excludes : List Exclude) (root : Location) (path : Text) : Bool :=
  let compared := comparedPath path
  excludes.any fun e =>
    e.pattern.accepts (if e.isAbsolute then Path.absolute (root ++ Path.names compared) else compared)

end SourceBook.Scan
