import SourceBook.Proofs.Comment.Fallible
import SourceBook.Proofs.Markdown.Failing

namespace SourceBook.Export

open Comment (FallibleLexer GivesUp Grammar Lexers Lexes State stripBy stripWith)
open Markdown (Pass failures outcomes passing runPasses)

/-- A run of passes leaves what the passes that do not fail leave when they run alone, none of which fails
then, and warns once of every other one. Whether a pass fails is said of the document that the run of the
passes before it leaves. A file with a lexer is stripped on all its lines, or it comes back as it is with
a warning when the lexer gives up on one of them, whatever it has made of those before. -/
theorem failing_steps_leave_nothing :
    (∀ (passes : List Pass) (content : Text),
      (∀ i : Nat, (outcomes passes content)[i]? =
        passes[i]?.map fun pass => (pass, pass.apply (runPasses (passes.take i) content).content)) ∧
      runPasses (passing passes content) content = ⟨(runPasses passes content).content, []⟩ ∧
      (runPasses passes content).warnings =
        (failures passes content).map fun (pass, message) => pass.name ++ " failed: ".toList ++ message) ∧
    ∀ (lexers : Lexers) (lexer : FallibleLexer) (extension content : Text),
      lexers (Grammar.ofExtension extension) = some lexer →
      (∃ texts last, Lexes lexer State.fresh (Text.breakLines content) texts last ∧
        stripWith lexer content = .ok ((Text.firstBreak content).intercalate texts) ∧
        stripBy lexers content extension =
          ⟨(Text.firstBreak content).intercalate texts, Grammar.ofExtension extension, none⟩) ∨
      ∃ message, GivesUp lexer State.fresh (Text.breakLines content) message ∧
        stripBy lexers content extension =
          ⟨content, Grammar.ofExtension extension,
            some ((Grammar.ofExtension extension).name ++ " lexer failed: ".toList ++ message)⟩ := by
  constructor
  · intro passes content
    exact ⟨Markdown.getElem?_outcomes passes content, Markdown.runPasses_passing passes content,
      Markdown.warnings_runPasses passes content⟩
  · intro lexers lexer extension content hlexer
    rcases Comment.lexes_or_givesUp lexer State.fresh (Text.breakLines content) with
      ⟨texts, last, hlexes⟩ | ⟨message, hgives⟩
    · have hstripped := Comment.stripWith_of_lexes hlexes
      exact .inl ⟨texts, last, hlexes, hstripped, Comment.stripBy_of_ok hlexer hstripped⟩
    · have hfailed := Comment.stripWith_of_givesUp hgives
      exact .inr ⟨message, hgives, Comment.stripBy_of_error hlexer hfailed⟩

def haltingPasses : List Pass :=
  [.total "one".toList (· ++ ['1']),
    ⟨"two".toList, fun content => if content.contains '1' then .error "1 found".toList else .ok []⟩,
    .total "three".toList (· ++ ['3'])]

def haltingLexer : FallibleLexer := fun line state =>
  if line.contains '!' then .error "mark found".toList else .ok (Comment.curly.lexLine line state)

theorem failing_steps_leave_nothing_halting :
    runPasses (passing haltingPasses ['x']) ['x'] = ⟨"x13".toList, []⟩ ∧
      (runPasses haltingPasses ['x']).warnings = ["two failed: 1 found".toList] ∧
      stripBy (fun _ => some haltingLexer) "a // b\nc!\nd".toList ".ts".toList =
        ⟨"a // b\nc!\nd".toList, .curly, some "CStyle lexer failed: mark found".toList⟩ := by
  obtain ⟨hpasses, hlexers⟩ := failing_steps_leave_nothing
  obtain ⟨-, halone, hwarnings⟩ := hpasses haltingPasses ['x']
  have hfailed : stripWith haltingLexer "a // b\nc!\nd".toList = .error "mark found".toList := rfl
  refine ⟨halone, hwarnings, ?_⟩
  rcases hlexers (fun _ => some haltingLexer) haltingLexer ".ts".toList "a // b\nc!\nd".toList rfl with
    ⟨texts, last, -, hstripped, -⟩ | ⟨message, hgives, hstrip⟩
  · rw [hfailed] at hstripped
    cases hstripped
  · have hmessage := (Comment.stripWith_of_givesUp hgives).symm.trans hfailed
    rw [Except.error.injEq] at hmessage
    rw [hstrip, hmessage]
    decide

end SourceBook.Export
