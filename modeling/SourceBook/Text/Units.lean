import SourceBook.Text.Basic

namespace SourceBook.Text

/-- A character beyond U+FFFF is two units. It sorts by the first of them: behind U+D7FF and before U+E000. -/
def charUnits (c : Char) : List Nat :=
  let n := c.toNat
  if n < 0x10000 then [n] else [0xD800 + (n - 0x10000) / 0x400, 0xDC00 + (n - 0x10000) % 0x400]

def units (text : Text) : List Nat := text.flatMap charUnits

def charWidth (c : Char) : Nat := if c.toNat < 0x10000 then 1 else 2

def width (text : Text) : Nat := text.foldl (fun n c => n + charWidth c) 0

def compareUnits (a b : Text) : Ordering := List.compareLex compare (units a) (units b)

theorem length_charUnits (c : Char) : (charUnits c).length = charWidth c := by
  simp only [charUnits, charWidth]
  split <;> rfl

theorem width_append (a b : Text) : width (a ++ b) = width a + width b := by
  have hfrom (n : Nat) (text : Text) :
      text.foldl (fun n c => n + charWidth c) n = n + width text := by
    induction text generalizing n with
    | nil => rfl
    | cons c text ih =>
        rw [width, List.foldl_cons, List.foldl_cons, ih, ih (0 + charWidth c)]
        omega
  rw [width, List.foldl_append, hfrom]
  rfl

end SourceBook.Text
