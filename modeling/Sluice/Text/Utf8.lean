/-!
# UTF-8

Bytes read as text. Where bytes are no text, everything up to the byte that does not fit counts as
one fault, and reading goes on with that byte; `decode?` refuses such bytes and `decodeLossy` puts
a replacement character in the place of each fault.
-/

namespace Sluice.Text.Utf8

/-- A character of which some bytes have been read: the bits so far, how many bytes are still to
come, and the bounds of the next one. -/
structure Partial where
  bits : Nat
  left : Nat
  low : Nat
  high : Nat

/-- The first byte of a character: a whole character, the start of one, or a fault. -/
def first (b : Nat) : List (Option Char) × Option Partial :=
  if b < 0x80 then ([some (Char.ofNat b)], none)
  else if 0xc2 ≤ b ∧ b ≤ 0xdf then ([], some ⟨b - 0xc0, 1, 0x80, 0xbf⟩)
  else if b = 0xe0 then ([], some ⟨0, 2, 0xa0, 0xbf⟩)
  else if b = 0xed then ([], some ⟨0xd, 2, 0x80, 0x9f⟩)
  else if 0xe1 ≤ b ∧ b ≤ 0xef then ([], some ⟨b - 0xe0, 2, 0x80, 0xbf⟩)
  else if b = 0xf0 then ([], some ⟨0, 3, 0x90, 0xbf⟩)
  else if b = 0xf4 then ([], some ⟨4, 3, 0x80, 0x8f⟩)
  else if 0xf1 ≤ b ∧ b ≤ 0xf3 then ([], some ⟨b - 0xf0, 3, 0x80, 0xbf⟩)
  else ([none], none)

/-- The next byte after some bytes of a character, if any. -/
def step (b : Nat) : Option Partial → List (Option Char) × Option Partial
  | none => first b
  | some p =>
    if p.low ≤ b ∧ b ≤ p.high then
      let bits := p.bits * 64 + (b - 0x80)
      if p.left = 1 then ([some (Char.ofNat bits)], none)
      else ([], some ⟨bits, p.left - 1, 0x80, 0xbf⟩)
    else
      let (found, p) := first b
      (none :: found, p)

/-- The characters of the bytes, with `none` for each fault. -/
def scan : List UInt8 → Option Partial → List (Option Char)
  | [], none => []
  | [], some _ => [none]
  | b :: bs, p =>
    let (found, p) := step b.toNat p
    found ++ scan bs p

end Utf8

/-- The text of bytes that are text. -/
def decode? (bytes : List UInt8) : Option String :=
  ((Utf8.scan bytes none).mapM id).map String.ofList

/-- The text of bytes, faults replaced. -/
def decodeLossy (bytes : List UInt8) : String :=
  String.ofList ((Utf8.scan bytes none).map fun c => c.getD '\ufffd')

def encode (s : String) : List UInt8 :=
  s.toUTF8.toList

example : decode? [0x61, 0xe2, 0x82, 0xac] = some "a€" := by decide +kernel
example : decodeLossy [0xe2, 0x82, 0x61, 0xff] = "\ufffda\ufffd" := by decide +kernel

end Sluice.Text
