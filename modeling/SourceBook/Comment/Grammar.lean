import SourceBook.Comment.Rules
import SourceBook.Comment.Python
import SourceBook.Text.LowerCase

namespace SourceBook.Comment

/-- A family of comment notation. `plain` files hold data and have no comments to remove. -/
inductive Grammar where
  | powerShell
  | curly
  | markup
  | sql
  | python
  | plain
  deriving DecidableEq, Repr

namespace Grammar

def all : List Grammar := [.powerShell, .curly, .markup, .sql, .python, .plain]

def name : Grammar → Text
  | powerShell => "PowerShellStyle".toList
  | curly => "CStyle".toList
  | markup => "HtmlStyle".toList
  | sql => "SqlStyle".toList
  | python => "PythonStyle".toList
  | plain => "None".toList

def ofName? (text : Text) : Option Grammar := all.find? fun grammar => grammar.name == text

def lexer? : Grammar → Option LineLexer
  | powerShell => some powerShellLine
  | curly => some Comment.curly.lexLine
  | markup => some Comment.markup.lexLine
  | sql => some Comment.sql.lexLine
  | python => some Python.lexLine
  | plain => none

def extensions : Grammar → List Text
  | powerShell => [".ps1", ".psm1", ".psd1"].map String.toList
  | curly => [".cs", ".java", ".js", ".jsx", ".mjs", ".cjs", ".ts", ".tsx", ".mts", ".cts", ".c",
      ".h", ".cpp", ".cc", ".cxx", ".hpp", ".hh", ".go", ".rs", ".swift", ".kt", ".kts", ".dart",
      ".php", ".rb", ".css", ".scss", ".less", ".scala", ".groovy"].map String.toList
  | markup => [".html", ".htm", ".xml", ".xaml", ".svg", ".vue", ".csproj", ".props", ".targets",
      ".config"].map String.toList
  | sql => [".sql"].map String.toList
  | python => [".py", ".pyw", ".pyi"].map String.toList
  | plain => [".json", ".yml", ".yaml", ".md", ".markdown", ".toml", ".ini", ".cfg", ".conf", ".txt",
      ".csv", ".lock"].map String.toList

end Grammar

def normalExtension (extension : Text) : Text :=
  match Text.lowerCase (Text.trim extension) with
  | [] => []
  | '.' :: rest => '.' :: rest
  | other => '.' :: other

def Grammar.ofKnown? (extension : Text) : Option Grammar :=
  Grammar.all.find? fun grammar => grammar.extensions.contains (normalExtension extension)

/-- The family of an extension; what nobody lists is read as a curly-brace language. -/
def Grammar.ofExtension (extension : Text) : Grammar := (Grammar.ofKnown? extension).getD .curly

def isKnown (extension : Text) : Bool := (Grammar.ofKnown? extension).isSome

end SourceBook.Comment
