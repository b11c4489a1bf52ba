/-!
# Text/Lossy — text from bytes that may be no text

Bytes are read as UTF-8.  Where they are none, each longest run that starts a character and does not
finish it, or else the single byte, is read as the replacement character.
-/

namespace Scaffold.Text

/-- The character in the place of what is none. -/
def replacement : Char := '\ufffd'

/-- How many bytes follow a first byte, the range of the second one, and the bits of the first. -/
def lead? (b : UInt8) : Option (Nat × UInt8 × UInt8 × Nat) :=
  if 0xc2 ≤ b && b ≤ 0xdf then some (1, 0x80, 0xbf, b.toNat - 0xc0)
  else if b == 0xe0 then some (2, 0xa0, 0xbf, 0)
  else if b == 0xed then some (2, 0x80, 0x9f, 0xd)
  else if 0xe1 ≤ b && b ≤ 0xef then some (2, 0x80, 0xbf, b.toNat - 0xe0)
  else if b == 0xf0 then some (3, 0x90, 0xbf, 0)
  else if b == 0xf4 then some (3, 0x80, 0x8f, 4)
  else if 0xf1 ≤ b && b ≤ 0xf3 then some (3, 0x80, 0xbf, b.toNat - 0xf0)
  else none

/-- Reads the bytes that follow a first one; `lo` and `hi` bound the next. -/
def follow (lo hi : UInt8) : Nat → Nat → List UInt8 → Char × List UInt8
  | 0, value, bs => (Char.ofNat value, bs)
  | n + 1, value, bs =>
    match bs with
    | [] => (replacement, [])
    | b :: rest =>
      if lo ≤ b && b ≤ hi then follow 0x80 0xbf n (value * 64 + (b.toNat - 0x80)) rest
      else (replacement, b :: rest)

/-- Reads bytes one character after the other. -/
def lossyFrom : Nat → List UInt8 → List Char
  | 0, _ => []
  | fuel + 1, bs =>
    match bs with
    | [] => []
    | b :: rest =>
      if b < 0x80 then Char.ofNat b.toNat :: lossyFrom fuel rest
      else
        match lead? b with
        | none => replacement :: lossyFrom fuel rest
        | some (n, lo, hi, value) =>
          let (c, rest) := follow lo hi n value rest
          c :: lossyFrom fuel rest

/-- The **text** of bytes. -/
def lossy (bytes : ByteArray) : String :=
  match String.fromUTF8? bytes with
  | some s => s
  | none => String.ofList (lossyFrom (bytes.size + 1) bytes.toList)

end Scaffold.Text
