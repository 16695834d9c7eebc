import SourceBook.Text.Basic

namespace SourceBook.Text

def isBlank (c : Char) : Bool :=
  let n := c.toNat
  (9 ≤ n && n ≤ 13) || n == 0x20 || n == 0xA0 || n == 0x1680 || (0x2000 ≤ n && n ≤ 0x200A) ||
    n == 0x2028 || n == 0x2029 || n == 0x202F || n == 0x205F || n == 0x3000 || n == 0xFEFF

/-- The text without its trailing blanks. Reading from the right, a blank is kept only in front of
something that was kept. -/
def trimEnd (text : Text) : Text :=
  text.foldr (fun c kept => if kept.isEmpty && isBlank c then [] else c :: kept) []

def trimStart (text : Text) : Text := text.dropWhile isBlank

def trim (text : Text) : Text := trimEnd (trimStart text)

def allBlank (text : Text) : Bool := text.all isBlank

def visible (text : Text) : Text := text.filter fun c => !isBlank c

theorem trimEnd_nil : trimEnd [] = [] := rfl

theorem trimEnd_cons (c : Char) (text : Text) :
    trimEnd (c :: text) = if (trimEnd text).isEmpty && isBlank c then [] else c :: trimEnd text := rfl

theorem trimEnd_eq_nil_iff {text : Text} : trimEnd text = [] ↔ allBlank text = true := by
  induction text with
  | nil => simp [trimEnd_nil, allBlank]
  | cons c text ih =>
    simp only [allBlank] at ih
    cases hb : isBlank c <;> cases ht : trimEnd text <;>
      simp_all [trimEnd_cons, allBlank]

theorem visible_trimEnd (text : Text) : visible (trimEnd text) = visible text := by
  induction text with
  | nil => rfl
  | cons c text ih =>
    simp only [visible] at ih
    cases hb : isBlank c <;> cases ht : trimEnd text <;>
      simp_all [trimEnd_cons, visible]

theorem visible_append (a b : Text) : visible (a ++ b) = visible a ++ visible b :=
  List.filter_append ..

/-- Trimming twice is trimming once. -/
theorem trimEnd_trimEnd (text : Text) : trimEnd (trimEnd text) = trimEnd text := by
  induction text with
  | nil => rfl
  | cons c text ih =>
    rw [trimEnd_cons]
    split
    · rfl
    · next h => rw [trimEnd_cons, ih, if_neg h]

end SourceBook.Text
