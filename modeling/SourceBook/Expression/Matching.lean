import SourceBook.Expression.Basic

namespace SourceBook.Expression

/-- A place in a text, and what the groups have matched on the way to it: number, start and end, the
latest first. -/
structure Place where
  position : Nat
  taken : List (Nat × Nat × Nat) := []

namespace Place

def forget (place : Place) (body : Expression) : Place :=
  if place.taken.isEmpty then place
  else { place with taken := place.taken.filter fun t => !body.groups.contains t.1 }

def remember (place : Place) (group : Nat) (origin : Place) : Place :=
  let first := min origin.position place.position
  { place with taken := (group, first, max origin.position place.position) :: place.taken }

end Place

def stepOver (text : Array Nat) (back : Bool) (set : UnitSet) (place : Place) : Option Place :=
  if back then
    match place.position with
    | 0 => none
    | n + 1 => if text[n]?.any set.has then some { place with position := n } else none
  else if text[place.position]?.any set.has then some { place with position := place.position + 1 }
  else none

def sameStretch (text : Array Nat) (a b length : Nat) : Bool :=
  (List.range length).all fun i =>
    text[a + i]?.map Text.capitalUnit == text[b + i]?.map Text.capitalUnit

def stepAgain (text : Array Nat) (back : Bool) (group : Nat) (place : Place) : Option Place :=
  match place.taken.lookup group with
  | none => some place
  | some (first, last) =>
    let length := last - first
    if back then
      if length ≤ place.position ∧ sameStretch text first (place.position - length) length then
        some { place with position := place.position - length }
      else none
    else if place.position + length ≤ text.size ∧ sameStretch text first place.position length then
      some { place with position := place.position + length }
    else none

def isWordAt (text : Array Nat) (position : Nat) : Bool := text[position]?.any UnitKind.word.has

def isEdge (text : Array Nat) (position : Nat) : Bool :=
  (0 < position && isWordAt text (position - 1)) != isWordAt text position

/-- Tries a body again and again from a place. A round that is not owed must move on, so `rounds` need
not be more than those owed and the length of the text. -/
def repeated (body : Place → (Place → Option Place) → Option Place) (eager : Bool)
    (next : Place → Option Place) : (rounds least : Nat) → (most : Option Nat) → Place → Option Place
  | 0, _, _, _ => none
  | rounds + 1, least, most, place =>
    if most = some 0 then next place
    else
      let further (_ : Unit) := body place fun reached =>
        if least = 0 ∧ reached.position = place.position then none
        else repeated body eager next rounds (least - 1) (most.map (· - 1)) reached
      if 0 < least then further ()
      else if eager then
        match further () with
        | some reached => some reached
        | none => next place
      else
        match next place with
        | some reached => some reached
        | none => further ()

/-- Tries an expression at a place. What has to follow is a function of the place that it reaches; the first
alternative that lets the rest match wins, and a look ahead or back settles on its first match. -/
def run (text : Array Nat) :
    Expression → (back : Bool) → Place → (Place → Option Place) → Option Place
  | empty, _, place, next => next place
  | one set, back, place, next => (stepOver text back set place).bind next
  | start, _, place, next => if place.position = 0 then next place else none
  | finish, _, place, next => if place.position = text.size then next place else none
  | edge wanted, _, place, next => if isEdge text place.position = wanted then next place else none
  | again number, back, place, next => (stepAgain text back number place).bind next
  | seq first second, back, place, next =>
    if back then second.run text back place fun reached => first.run text back reached next
    else first.run text back place fun reached => second.run text back reached next
  | alt left right, back, place, next =>
    match left.run text back place next with
    | some reached => some reached
    | none => right.run text back place next
  | group number body, back, place, next =>
    body.run text back place fun reached => next (reached.remember number place)
  | look before wanted body, _, place, next =>
    match body.run text before place some, wanted with
    | some reached, true => next { place with taken := reached.taken }
    | none, false => next place
    | _, _ => none
  | many bounds body, back, place, next =>
    repeated (fun place next => body.run text back (place.forget body) next) bounds.eager next
      (bounds.least + text.size + 2) bounds.least bounds.most place

def accepts (e : Expression) (units : List Nat) : Bool :=
  let text := units.toArray
  (List.range (text.size + 1)).any fun position =>
    (e.run text false { position } some).isSome

end SourceBook.Expression
