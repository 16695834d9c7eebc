import SourceBook.Glob.Draft

namespace SourceBook.Glob

def skipDeep : Text → Text
  | '/' :: '*' :: '*' :: rest =>
    match rest with
    | [] => []
    | '/' :: _ => skipDeep rest
    | _ => '/' :: '*' :: '*' :: rest
  | text => text

namespace Draft

def absorbStar (d : Draft) : Draft :=
  { d.alterLast fun mark =>
      { mark with
        kind := .star, written := mark.written ++ ['*'], means := some Fragment.run, absorbs := true } with
    rebuilds := true }

def firstStar (d : Draft) : Draft :=
  let kind := d.last.kind
  let d :=
    if d.position = d.start + 1 ∨ kind = .slash ∨ kind = .dot then
      d.guard ((if kind = .dot then Fragment.noEnd else Fragment.noDots) ++
        if d.rest.head? = some '*' then [] else Fragment.something)
    else d
  d.pushAs .star '*' Fragment.run

def deepened (mark : Mark) (expression : Text) : Mark :=
  { mark with kind := .deepStar, written := mark.written ++ ['*'], means := some expression }

def joinSlash (d : Draft) (star slash : Mark) (before : List Mark) (expression : Text) : Draft :=
  let joined := { slash with means := some ("(?:".toList ++ slash.expression) }
  let star' := deepened star expression
  { d with
    marks := star' :: joined :: before
    output := Fragment.dropLast (slash.expression.length + star.expression.length) d.output ++
      joined.expression ++ expression }

def skipSlash (d : Draft) : Draft := (d.skip 1).pushAs .slash '/' []

def secondStar (d : Draft) : Draft :=
  match d.marks with
  | star :: prior :: before =>
    let startsName := prior.kind = .start ∨ prior.kind = .slash
    let startsOption := prior.kind = .paren ∨
      !d.braces.isEmpty ∧ (prior.kind = .comma ∨ prior.kind = .brace)
    if ¬ startsName ∧ ¬ startsOption then d.pushAs .star '*' []
    else
      let d := d.skip (d.rest.length - (skipDeep d.rest).length)
      let earlier := (before.head?.map Mark.kind).getD .start
      let afterStar := earlier = .star ∨ earlier = .deepStar
      let alone (expression output : Text) : Draft :=
        { d with marks := deepened star expression :: prior :: before, output }
      match prior.kind, d.rest with
      | .start, [] => alone Fragment.deep Fragment.deep
      | .start, '/' :: _ =>
        let expression := "(?:^|".toList ++ Fragment.slash ++ ['|'] ++ Fragment.deep ++ Fragment.slash ++
          [')']
        (alone expression expression).skipSlash
      | _, rest =>
        let inner := prior.kind = .slash ∧ earlier ≠ .start
        if inner ∧ rest.isEmpty ∧ ¬ afterStar then
          d.joinSlash star prior before (Fragment.deep ++ "|$)".toList)
        else if inner ∧ rest.head? = some '/' then
          let final := if 1 < rest.length then "|$".toList else []
          (d.joinSlash star prior before
            (Fragment.deep ++ Fragment.slash ++ ['|'] ++ Fragment.slash ++ final ++ [')'])).skipSlash
        else
          alone Fragment.deep
            (Fragment.dropLast star.expression.length d.output ++ Fragment.deep)
  | _ => d

end Draft

end SourceBook.Glob
