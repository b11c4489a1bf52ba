import Scaffold.Number.Shortest

/-!
# Number/Literal — reading numbers from text

`readFloat?` reads a decimal literal to the nearest double; `readInt?` reads a signed run of digits.
`truncate` and `remainder` are exact on doubles.
-/

namespace Scaffold

namespace Literal

/-- The value of a digit in some base up to sixteen. -/
def digitIn? (base : Nat) (c : Char) : Option Nat :=
  let v :=
    if '0' ≤ c ∧ c ≤ '9' then some (c.toNat - '0'.toNat)
    else if 'a' ≤ c ∧ c ≤ 'f' then some (c.toNat - 'a'.toNat + 10)
    else if 'A' ≤ c ∧ c ≤ 'F' then some (c.toNat - 'A'.toNat + 10)
    else none
  v.filter (· < base)

/-- The number that digits of a base write; at least one digit is needed. -/
def readNat? (base : Nat) (cs : List Char) : Option Nat :=
  if cs.isEmpty then none
  else cs.foldlM (fun acc c => (digitIn? base c).map fun d => acc * base + d) 0

/-- A decimal integer with an optional sign. -/
def readInt? : List Char → Option Int
  | '-' :: cs => (readNat? 10 cs).map fun n => -(n : Int)
  | '+' :: cs => (readNat? 10 cs).map fun n => (n : Int)
  | cs => (readNat? 10 cs).map fun n => (n : Int)

/-- The double nearest to `m · 10^e`. -/
def nearest (m : Nat) (e : Int) : Float :=
  if m = 0 then 0.0
  else if e + ((toString m).length : Int) > 400 then 1.0 / 0.0
  else if e + ((toString m).length : Int) < -400 then 0.0
  else if 0 ≤ e then Float.ofScientific m false e.toNat
  else Float.ofScientific m true (-e).toNat

/-- The decimal digits at the front, and the rest. -/
def takeDigits (cs : List Char) : List Char × List Char :=
  (cs.takeWhile (·.isDigit), cs.dropWhile (·.isDigit))

/-- An unsigned decimal literal: digits, a point, digits, and an exponent.  Digits stand before or
after the point. -/
def readUnsigned? (cs : List Char) : Option Float :=
  let (whole, rest) := takeDigits cs
  let (fraction, rest) :=
    match rest with
    | '.' :: r => takeDigits r
    | r => ([], r)
  if whole.isEmpty && fraction.isEmpty then none
  else
    match readNat? 10 (whole ++ fraction) with
    | none => none
    | some m =>
      let shift : Int := fraction.length
      match rest with
      | [] => some (nearest m (-shift))
      | c :: r =>
        if c = 'e' ∨ c = 'E' then (readInt? r).map fun e => nearest m (e - shift) else none

/-- Whether a text is a word, whatever its case. -/
def isWord (word : String) (cs : List Char) : Bool := cs.map Char.toLower = word.toList

/-- A decimal literal with an optional sign, or the words for infinity and for no number. -/
def readFloat? (cs : List Char) : Option Float :=
  let (negative, body) :=
    match cs with
    | '-' :: r => (true, r)
    | '+' :: r => (false, r)
    | r => (false, r)
  let value :=
    if isWord "inf" body || isWord "infinity" body then some (1.0 / 0.0)
    else if isWord "nan" body then some (0.0 / 0.0)
    else readUnsigned? body
  value.map fun x => if negative then -x else x

end Literal

/-- A finite double cut off toward zero. -/
def truncate (x : Float) : Int :=
  let p := Parts.ofFloat x
  let size : Int :=
    if 0 ≤ p.exponent then (p.mantissa * Nat.pow 2 p.exponent.toNat : Nat)
    else (p.mantissa / Nat.pow 2 (-p.exponent).toNat : Nat)
  if x < 0.0 then -size else size

/-- The remainder of a division of doubles toward zero; it has the sign of the dividend. -/
def remainder (x y : Float) : Float :=
  if x.isNaN || y.isNaN || x.isInf || y == 0.0 then 0.0 / 0.0
  else if y.isInf then x
  else
    let p := Parts.ofFloat x
    let q := Parts.ofFloat y
    let e := min p.exponent q.exponent
    let a := p.mantissa * Nat.pow 2 (p.exponent - e).toNat
    let b := q.mantissa * Nat.pow 2 (q.exponent - e).toNat
    let r := (Float.ofNat (a % b)).scaleB e
    if x < 0.0 then -r else r

end Scaffold
