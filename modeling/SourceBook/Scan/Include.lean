import SourceBook.Comment.Grammar
import SourceBook.Text.Collation.Order

namespace SourceBook.Scan

variable [Text.Collation]

def knownExtensions : List Text := Text.sort (Comment.Grammar.all.flatMap Comment.Grammar.extensions)

def wantedExtensions (extensions : List Text) : List Text :=
  let given := (extensions.map Comment.normalExtension).filter fun extension => 1 < extension.length
  (if given.isEmpty then knownExtensions else given).eraseDups

def includePattern (extensions : List Text) : Text :=
  match (wantedExtensions extensions).map (·.drop 1) with
  | [extension] => "**/*.".toList ++ extension
  | several => "**/*.\x7b".toList ++ [','].intercalate several ++ ['\x7d']

end SourceBook.Scan
