import SourceBook.Text.Basic

namespace SourceBook.Text

abbrev Bytes := List UInt8

def replacement : Char := Char.ofNat 0xFFFD

def byteOrderMark : Char := Char.ofNat 0xFEFF

/-- A character of which some bytes were read: its value so far, how many bytes are missing, and the
range of the next one. -/
structure Partial where
  value : Nat
  missing : Nat
  low : Nat
  high : Nat

def startByte (b : Nat) : Option Char × Option Partial :=
  if b < 0x80 then (some (Char.ofNat b), none)
  else if 0xC2 ≤ b ∧ b ≤ 0xDF then (none, some ⟨b - 0xC0, 1, 0x80, 0xBF⟩)
  else if 0xE0 ≤ b ∧ b ≤ 0xEF then
    (none, some ⟨b - 0xE0, 2, if b = 0xE0 then 0xA0 else 0x80, if b = 0xED then 0x9F else 0xBF⟩)
  else if 0xF0 ≤ b ∧ b ≤ 0xF4 then
    (none, some ⟨b - 0xF0, 3, if b = 0xF0 then 0x90 else 0x80, if b = 0xF4 then 0x8F else 0xBF⟩)
  else (some replacement, none)

def decodeFrom (done : Text) (open? : Option Partial) : Bytes → Text
  | [] => (match open? with | some _ => replacement :: done | none => done).reverse
  | byte :: rest =>
    let b := byte.toNat
    match open? with
    | some p =>
      if p.low ≤ b ∧ b ≤ p.high then
        let value := p.value * 64 + (b - 0x80)
        if p.missing = 1 then decodeFrom (Char.ofNat value :: done) none rest
        else decodeFrom done (some ⟨value, p.missing - 1, 0x80, 0xBF⟩) rest
      else
        let (found, open?) := startByte b
        decodeFrom (found.toList ++ replacement :: done) open? rest
    | none =>
      let (found, open?) := startByte b
      decodeFrom (found.toList ++ done) open? rest

def decode (bytes : Bytes) : Text :=
  match decodeFrom [] none bytes with
  | c :: rest => if c = byteOrderMark then rest else c :: rest
  | [] => []

def encodeChar (c : Char) : Bytes :=
  let n := c.toNat
  let tail (shift : Nat) : UInt8 := (0x80 + (n >>> shift) % 64).toUInt8
  if n < 0x80 then [n.toUInt8]
  else if n < 0x800 then [(0xC0 + n / 64).toUInt8, tail 0]
  else if n < 0x10000 then [(0xE0 + n / 4096).toUInt8, tail 6, tail 0]
  else [(0xF0 + n / 262144).toUInt8, tail 12, tail 6, tail 0]

def encode (text : Text) : Bytes := text.flatMap encodeChar

def sniffLength : Nat := 8000

def looksBinary (bytes : Bytes) : Bool := (bytes.take sniffLength).contains 0

end SourceBook.Text
