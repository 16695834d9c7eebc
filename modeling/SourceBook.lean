import SourceBook.Main
import SourceBook.Proofs.Text.Lines
import SourceBook.Proofs.Text.Trim
import SourceBook.Proofs.Markdown.Canonical
import SourceBook.Proofs.Text.Breaks
import SourceBook.Proofs.Markdown.LinePasses
import SourceBook.Proofs.Markdown.BlankLines
import SourceBook.Proofs.Markdown.Title
import SourceBook.Proofs.Markdown.Wrapping
import SourceBook.Proofs.Markdown.WrapCode
import SourceBook.Proofs.Markdown.Ending
import SourceBook.Proofs.Markdown.FixedPoints
import SourceBook.Proofs.Document.Listing
import SourceBook.Proofs.Document.Numbering
import SourceBook.Proofs.Document.Tree
import SourceBook.Proofs.Document.Outline
import SourceBook.Proofs.Document.Assemble
import SourceBook.Proofs.Document.Normalized
import SourceBook.Proofs.Document.Skeleton
import SourceBook.Proofs.Text.Visible
import SourceBook.Proofs.Markdown.Failing
import SourceBook.Proofs.Markdown.Visible
import SourceBook.Proofs.Markdown.OpeningLine
import SourceBook.Proofs.Text.FileLines
import SourceBook.Proofs.Text.Joined
import SourceBook.Proofs.Comment.Steps
import SourceBook.Proofs.Comment.LineStructure
import SourceBook.Proofs.Comment.Automaton
import SourceBook.Proofs.Comment.OnePass
import SourceBook.Proofs.Comment.Literals
import SourceBook.Proofs.Comment.Runs
import SourceBook.Proofs.Comment.NeverJoined
import SourceBook.Proofs.Comment.KeptAgain
import SourceBook.Proofs.Comment.Restripping
import SourceBook.Proofs.Report.Findings
import SourceBook.Proofs.Export.Intake
import SourceBook.Proofs.Export.Accounting
import SourceBook.Proofs.Files.Names
import SourceBook.Proofs.Scan.Selection
import SourceBook.Proofs.CommandLine.Outputs
import SourceBook.Proofs.Export.Caps
import SourceBook.Proofs.Markdown.Shape
import SourceBook.Proofs.Markdown.EarlyClosing
import SourceBook.Proofs.CommandLine.DocumentNames
import SourceBook.Proofs.Markdown.Greedy
import SourceBook.Proofs.Markdown.DistinctHeadings
import SourceBook.Proofs.Markdown.StaysCanonical
import SourceBook.Proofs.Export.Finishing
import SourceBook.Proofs.Document.Anchors
import SourceBook.Proofs.Document.TreePicture
import SourceBook.Proofs.Scan.Designated
import SourceBook.Proofs.Report.Canonical
import SourceBook.Proofs.Export.FailOpen
import SourceBook.Proofs.Data.StableText
