import SourceBook.Text.Basic

namespace SourceBook.Glob.Fragment

def dot : Text := "\\.".toList
def plus : Text := "\\+".toList
def slash : Text := "\\/".toList

def something : Text := "(?=.)".toList

def unit : Text := "[^/]".toList

def run : Text := unit ++ "*?".toList

def nameStart : Text := "(?:^|\\/)".toList
def nameEnd : Text := "(?:\\/|$)".toList

def dots : Text := dot ++ "\x7b1,2\x7d".toList ++ nameEnd

def noDots : Text := "(?!".toList ++ dots ++ ")".toList

def noDotsNext : Text := "(?!".toList ++ nameStart ++ dots ++ ")".toList

def noEnd : Text := "(?!".toList ++ dot ++ "\x7b0,1\x7d".toList ++ nameEnd ++ ")".toList

def deep : Text := "(?:(?:(?!".toList ++ nameStart ++ dots ++ ").)*?)".toList

def dropLast (n : Nat) (text : Text) : Text := if n = 0 then [] else text.take (text.length - n)

def isSpecial (c : Char) : Bool := "-*+?.^$\x7b\x7d(|)[]".toList.contains c

def escape (text : Text) : Text := text.flatMap fun c => if isSpecial c then ['\\', c] else [c]

def escapeFirst (c : Char) : Text → Text
  | [] => []
  | d :: before =>
    if d = c ∧ before.head? ≠ some '\\' then d :: '\\' :: before else d :: escapeFirst c before

def escapeLast (c : Char) (text : Text) : Text := (escapeFirst c text.reverse).reverse

end SourceBook.Glob.Fragment
