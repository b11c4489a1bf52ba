import Scaffold.Json.Basic
import Scaffold.Number.Shortest

/-!
# Json/Writer — the compact text of a data value

No blanks, fields in the order they are held, doubles by their shortest digits.  Only the quote, the
backslash and control characters are escaped.
-/

namespace Scaffold

namespace Json

/-- The hexadecimal digits of a number, lower case, at least `width` of them. -/
def hex (width n : Nat) : String :=
  let ds := Nat.toDigits 16 n
  String.ofList (List.replicate (width - ds.length) '0' ++ ds)

/-- Doubles from `10^-5` up to below `10^16` are positional; a power of ten carries its sign. -/
def floatFormat : FloatFormat := ⟨some (-5), some 16, true, "null", "null"⟩

/-- The text of a number. -/
def numberText : Number → String
  | .int n => toString n
  | .float x => if x.isNaN || x.isInf then "null" else floatFormat.text x

/-- A character inside a quoted text. -/
def escape (c : Char) : List Char :=
  if c = '"' then ['\\', '"']
  else if c = '\\' then ['\\', '\\']
  else if c = '\n' then ['\\', 'n']
  else if c = '\r' then ['\\', 'r']
  else if c = '\t' then ['\\', 't']
  else if c = '\x08' then ['\\', 'b']
  else if c = '\x0c' then ['\\', 'f']
  else if c.toNat < 0x20 then '\\' :: 'u' :: (hex 4 c.toNat).toList
  else [c]

/-- A quoted text. -/
def quote (s : String) : String :=
  "\"" ++ String.ofList (s.toList.flatMap escape) ++ "\""

mutual

/-- The compact **text** of a value. -/
def text : Json → String
  | .null => "null"
  | .bool true => "true"
  | .bool false => "false"
  | .num n => numberText n
  | .str s => quote s
  | .arr items => "[" ++ String.intercalate "," (itemTexts items) ++ "]"
  | .obj fields => "\x7b" ++ String.intercalate "," (fieldTexts fields) ++ "\x7d"

/-- The texts of the items of an array. -/
def itemTexts : List Json → List String
  | [] => []
  | v :: vs => text v :: itemTexts vs

/-- The texts of the fields of an object. -/
def fieldTexts : List (String × Json) → List String
  | [] => []
  | (k, v) :: fs => (quote k ++ ":" ++ text v) :: fieldTexts fs

end

end Json

end Scaffold
