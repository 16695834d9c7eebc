import SourceBook.Text.Basic

namespace SourceBook.Markdown

structure Pass where
  name : Text
  apply : Text → Except Text Text

def Pass.total (name : Text) (apply : Text → Text) : Pass := ⟨name, fun content => .ok (apply content)⟩

structure Draft where
  content : Text
  warnings : List Text
  deriving DecidableEq, Repr

def Pass.warning (pass : Pass) (message : Text) : Text :=
  pass.name ++ " failed: ".toList ++ message

def Pass.run (pass : Pass) (document : Draft) : Draft :=
  match pass.apply document.content with
  | .ok content => { document with content }
  | .error message => { document with warnings := document.warnings ++ [pass.warning message] }

def runPasses (passes : List Pass) (content : Text) : Draft :=
  passes.foldl (fun document pass => pass.run document) ⟨content, []⟩

end SourceBook.Markdown
