import SourceBook.Comment.Grammar
import SourceBook.Markdown.Fence

namespace SourceBook.Document

def languages : List (Text × Text) := [
  (".ps1", "powershell"), (".psm1", "powershell"), (".psd1", "powershell"), (".cs", "csharp"),
  (".java", "java"), (".js", "javascript"), (".jsx", "jsx"), (".mjs", "javascript"),
  (".cjs", "javascript"), (".ts", "typescript"), (".tsx", "tsx"), (".mts", "typescript"),
  (".cts", "typescript"), (".c", "c"), (".h", "c"), (".cpp", "cpp"), (".cc", "cpp"), (".cxx", "cpp"),
  (".hpp", "cpp"), (".hh", "cpp"), (".go", "go"), (".rs", "rust"), (".swift", "swift"),
  (".kt", "kotlin"), (".kts", "kotlin"), (".dart", "dart"), (".php", "php"), (".rb", "ruby"),
  (".css", "css"), (".scss", "scss"), (".less", "less"), (".scala", "scala"), (".groovy", "groovy"),
  (".html", "html"), (".htm", "html"), (".xml", "xml"), (".xaml", "xml"), (".svg", "xml"),
  (".vue", "vue"), (".csproj", "xml"), (".props", "xml"), (".targets", "xml"), (".config", "xml"),
  (".sql", "sql"), (".py", "python"), (".pyw", "python"), (".pyi", "python"), (".json", "json"),
  (".yml", "yaml"), (".yaml", "yaml"), (".md", "markdown"), (".markdown", "markdown"),
  (".toml", "toml"), (".ini", "ini"), (".cfg", "ini"), (".conf", "ini"), (".csv", "csv")].map
    fun (extension, language) => (extension.toList, language.toList)

def language (extension : Text) : Text :=
  (languages.lookup (Comment.normalExtension extension)).getD "text".toList

def padded (width : Nat) (n : Nat) : Text := (toString n).toList.leftpad width ' '

def numberLines (content : Text) : Text :=
  let pieces := Text.lines content
  let width := (toString pieces.length).length
  Text.unlines <| pieces.zipIdx.map fun (line, i) => padded width (i + 1) ++ " | ".toList ++ line

def startTicks (line : Text) : Nat :=
  if 3 < (line.takeWhile (· == ' ')).length then 0
  else ((line.dropWhile (· == ' ')).takeWhile (· == Markdown.tick)).length

/-- The length of a fence around the content: three, or more than any run of backticks that starts a
line. Here any line end starts a new line. -/
def fenceLength (content : Text) : Nat :=
  max 3 (((content.splitOnP Text.isLineEnd).map startTicks).foldl max 0 + 1)

def fence (content : Text) : Text := List.replicate (fenceLength content) Markdown.tick

def dropBreaksBackward : Text → Text
  | '\n' :: '\r' :: rest => dropBreaksBackward rest
  | '\n' :: rest => dropBreaksBackward rest
  | text => text

def dropEndBreaks (content : Text) : Text := (dropBreaksBackward content.reverse).reverse

end SourceBook.Document
