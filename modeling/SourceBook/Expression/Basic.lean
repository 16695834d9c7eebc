import SourceBook.Text.Blank
import SourceBook.Text.Capitals

namespace SourceBook

inductive UnitKind where
  | digit
  | word
  | blank
  deriving DecidableEq, Repr

def UnitKind.has (kind : UnitKind) (u : Nat) : Bool :=
  match kind with
  | digit => 0x30 ≤ u && u ≤ 0x39
  | word => (0x30 ≤ u && u ≤ 0x39) || (0x41 ≤ u && u ≤ 0x5A) || (0x61 ≤ u && u ≤ 0x7A) || u == 0x5F
  | blank => Text.isBlank (Char.ofNat u)

inductive UnitMember where
  | range (first last : Nat)
  | kind (kind : UnitKind)
  | otherThan (kind : UnitKind)
  deriving DecidableEq, Repr

def UnitMember.has (member : UnitMember) (u : Nat) : Bool :=
  match member with
  | range first last => first ≤ u && u ≤ last
  | kind k => k.has u
  | otherThan k => !k.has u

structure UnitSet where
  members : List UnitMember
  inverted : Bool := false
  deriving DecidableEq, Repr

namespace UnitSet

def has (set : UnitSet) (u : Nat) : Bool :=
  (set.members.any fun member => Text.anyForm member.has u) != set.inverted

def single (u : Nat) : UnitSet := { members := [.range u u] }

def inLine : UnitSet :=
  { members := [.range 0x0A 0x0A, .range 0x0D 0x0D, .range 0x2028 0x2029], inverted := true }

end UnitSet

structure Bounds where
  least : Nat
  most : Option Nat
  eager : Bool := true
  deriving DecidableEq, Repr

inductive Expression where
  | empty
  | one (set : UnitSet)
  | start
  | finish
  | edge (wanted : Bool)
  | again (group : Nat)
  | seq (first second : Expression)
  | alt (left right : Expression)
  | group (number : Nat) (body : Expression)
  | look (back wanted : Bool) (body : Expression)
  | many (bounds : Bounds) (body : Expression)
  deriving Repr

namespace Expression

def groups : Expression → List Nat
  | seq first second => first.groups ++ second.groups
  | alt left right => left.groups ++ right.groups
  | group number body => number :: body.groups
  | look _ _ body => body.groups
  | many _ body => body.groups
  | _ => []

def ofList : List Expression → Expression
  | [] => empty
  | [e] => e
  | e :: rest => seq e (ofList rest)

end Expression

end SourceBook
