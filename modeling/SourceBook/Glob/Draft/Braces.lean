import SourceBook.Expression.Reading
import SourceBook.Glob.Draft

namespace SourceBook.Glob

def rangeSet (ends : List Text) : Text :=
  let sorted := ends.mergeSort fun a b => Text.compareUnits a b != .gt
  let set := '[' :: ['-'].intercalate sorted ++ [']']
  if (Expression.ofText? set).isSome then set
  else ['.', '.'].intercalate (sorted.map Fragment.escape)

namespace Draft

def openBrace (d : Draft) : Draft :=
  let brace := { output := d.output.length, marks := d.marks.length }
  { d.enter .brace with braces := brace :: d.braces }.pushAs .brace '\x7b' ['(']

def leaveBrace (d : Draft) : Draft := { d.leave with braces := d.braces.tail }

def closeRange (d : Draft) : Draft :=
  let inside := (d.marks.takeWhile fun mark => mark.kind != .brace).reverse
  let ends := (inside.filter fun mark => mark.kind != .dots).map Mark.written
  let marks := (d.marks.dropWhile fun mark => mark.kind != .brace).tail
  { d with marks, rebuilds := true }.pushAs .brace '\x7d' (rangeSet ends)

def closeLiteral (d : Draft) (brace : OpenBrace) : Draft :=
  let count := d.marks.length - brace.marks
  let opening := ['\\', '\x7b']
  let inside := match (d.marks.take count).reverse with
    | mark :: rest => { mark with written := opening, means := some opening } :: rest
    | [] => []
  let own (mark : Mark) : Text :=
    match mark.means with
    | some (c :: rest) => c :: rest
    | _ => mark.written
  let d := { d with
    marks := inside.reverse ++ d.marks.drop count
    output := d.output.take brace.output ++ inside.flatMap own }
  d.push { kind := .brace, written := ['\\', '\x7d'], means := some ['\\', '\x7d'] }

def closeBrace (d : Draft) : Draft :=
  match d.braces with
  | [] => d.push { kind := .text, written := ['\x7d'], means := some ['\x7d'] }
  | brace :: _ =>
    (if brace.hasDots then d.closeRange
      else if brace.hasComma then d.pushAs .brace '\x7d' [')']
      else d.closeLiteral brace).leaveBrace

def alterBrace (d : Draft) (f : OpenBrace → OpenBrace) : Draft :=
  match d.braces with
  | brace :: outer => { d with braces := f brace :: outer }
  | [] => d

def readComma (d : Draft) : Draft :=
  if !d.braces.isEmpty ∧ d.nesting.head? = some .brace then
    (d.alterBrace fun brace => { brace with hasComma := true }).pushAs .comma ',' ['|']
  else d.pushAs .comma ',' [',']

def readDot (d : Draft) : Draft :=
  let last := d.last
  if !d.braces.isEmpty ∧ last.kind = .dot then
    (d.alterBrace fun brace => { brace with hasDots := true }).alterLast fun mark =>
      { mark with
        kind := .dots
        means := some ((if mark.written = ['.'] then Fragment.dot else mark.expression) ++ ['.'])
        written := mark.written ++ ['.'] }
  else if (d.braces.length : Int) + d.parens = 0 ∧ last.kind ≠ .start ∧ last.kind ≠ .slash then
    d.pushAs .text '.' Fragment.dot
  else d.pushAs .dot '.' Fragment.dot

end Draft

end SourceBook.Glob
