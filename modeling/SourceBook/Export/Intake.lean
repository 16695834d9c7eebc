import SourceBook.Comment.Strip
import SourceBook.Document.Assemble
import SourceBook.Path.Basic
import SourceBook.Report.Basic
import SourceBook.Text.Utf8

namespace SourceBook.Export

open Comment (Grammar Lexers)
open Document (Entry)
open Text (Bytes)

structure IntakeOptions where
  maxFileBytes : Option Number := none
  maxTotalBytes : Option Number := none
  stripComments : Bool := true

structure Intake where
  report : Report
  entries : List Entry
  bytes : Nat
  isFull : Bool

def Intake.start (report : Report) : Intake := ⟨report, [], 0, false⟩

def exceeds (n : Nat) (limit : Option Number) : Bool := limit.any fun l => l.isExceededBy n

def kilobytes (bytes : Number) : Text := (bytes.ceilDiv 1024).text ++ " KB".toList

def Intake.skip (intake : Intake) (path kind message : Text) : Intake :=
  { intake with report := intake.report.record ⟨kind, Finding.warning, message, some path⟩ }

def refusal? (options : IntakeOptions) (bytes : Bytes) : Option (Text × Text) :=
  if exceeds bytes.length options.maxFileBytes then
    let limit := options.maxFileBytes.getD (.ofNat 0)
    some (Finding.tooLarge, "File is ".toList ++ kilobytes (.ofNat bytes.length) ++
      ", limit is ".toList ++ kilobytes limit)
  else if Text.looksBinary bytes then some (Finding.binary, "Binary content".toList)
  else none

def entryOf (lexers : Lexers) (options : IntakeOptions) (path : Text) (bytes : Bytes) :
    Entry × Grammar × Option Text :=
  let extension := Path.extension path
  let content := Text.decode bytes
  if options.stripComments then
    let stripped := Comment.stripBy lexers content extension
    (⟨path, extension, stripped.content⟩, stripped.grammar, stripped.warning)
  else (⟨path, extension, content⟩, Grammar.ofExtension extension, none)

def Intake.take (lexers : Lexers) (options : IntakeOptions) (intake : Intake) (path : Text)
    (bytes : Bytes) : Intake :=
  let (entry, grammar, warning) := entryOf lexers options path bytes
  let report := match warning with
    | some message =>
      intake.report.record ⟨Finding.stripFailed, Finding.warning, message, some path⟩
    | none => intake.report
  { intake with
    report := report.countGrammar grammar.name
    entries := intake.entries ++ [entry]
    bytes := intake.bytes + bytes.length }

def Intake.step (lexers : Lexers) (read : Text → Except Text Bytes) (options : IntakeOptions)
    (intake : Intake) (path : Text) : Intake :=
  if intake.isFull then intake.skip path Finding.totalLimit "Total size limit reached".toList
  else
    match read path with
    | .error message => intake.skip path Finding.unreadable message
    | .ok bytes =>
      match refusal? options bytes with
      | some (kind, message) => intake.skip path kind message
      | none =>
        if exceeds (intake.bytes + bytes.length) options.maxTotalBytes then
          let limit := options.maxTotalBytes.getD (.ofNat 0)
          { intake with isFull := true }.skip path Finding.totalLimit
            ("Total size limit of ".toList ++ kilobytes limit ++ " reached".toList)
        else intake.take lexers options path bytes

def intake (lexers : Lexers) (read : Text → Except Text Bytes) (options : IntakeOptions)
    (report : Report) (paths : List Text) : Intake :=
  paths.foldl (Intake.step lexers read options) (.start report)

end SourceBook.Export
