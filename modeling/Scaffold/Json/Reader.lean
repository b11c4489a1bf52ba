import Scaffold.Json.Basic

/-!
# Json/Reader — reading a data value from text

`Json.read?` accepts one value with blanks around it.  Arrays and objects nest at most 127 deep;
integers outside 64 bits become doubles; a double too large to represent is refused.  Doubles are
read by scaling the leading digits (as many as fit 64 bits) by one power of ten at a time, which
fixes the last bit of long literals.
-/

namespace Scaffold

namespace Json

/-! ## Numbers -/

/-- The greatest integer held exactly. -/
def maxInt : Nat := Nat.pow 2 64 - 1

/-- Scales a double by a power of ten, by at most 308 decimal places at a time. -/
def scaleTen (f : Float) (exponent : Int) : Nat → Option Float
  | 0 => some f
  | fuel + 1 =>
    if exponent.natAbs ≤ 308 then
      let pow := Float.ofScientific 1 false exponent.natAbs
      if 0 ≤ exponent then
        let g := f * pow
        if g.isInf then none else some g
      else some (f / pow)
    else if f == 0.0 then some f
    else if 0 ≤ exponent then none
    else scaleTen (f / Float.ofScientific 1 false 308) (exponent + 308) fuel

/-- The double `significand · 10^exponent`, if it is finite. -/
def scaled? (negative : Bool) (significand : Nat) (exponent : Int) : Option Float :=
  (scaleTen significand.toFloat exponent 8).map fun f => if negative then -f else f

/-- The value of a digit. -/
def digit? (c : Char) : Option Nat :=
  if '0' ≤ c ∧ c ≤ '9' then some (c.toNat - '0'.toNat) else none

/-- The longest run of digits at the front, and what follows it. -/
def digitRun : List Char → List Nat × List Char
  | [] => ([], [])
  | c :: cs =>
    match digit? c with
    | some d => let (ds, rest) := digitRun cs; (d :: ds, rest)
    | none => ([], c :: cs)

/-- Digits joined to a number as long as it fits 64 bits; the second part counts the digits left
over. -/
def accumulate : Nat → List Nat → Nat × Nat
  | acc, [] => (acc, 0)
  | acc, d :: ds =>
    if acc * 10 + d > maxInt then (acc, (d :: ds).length)
    else accumulate (acc * 10 + d) ds

/-- The exponent part, whose mark has been read: a sign and digits.  A large exponent makes a nonzero
number too large, or zero. -/
def exponent? (negative : Bool) (significand : Nat) (start : Int) (cs : List Char) :
    Option (Float × List Char) :=
  let (down, cs) := match cs with
    | '+' :: r => (false, r)
    | '-' :: r => (true, r)
    | r => (false, r)
  match digitRun cs with
  | ([], _) => none
  | (ds, rest) =>
    let e : Nat := ds.foldl (fun acc d => min (acc * 10 + d) (Nat.pow 2 31)) 0
    if Nat.pow 2 31 ≤ e then
      if significand ≠ 0 ∧ !down then none else some (if negative then -0.0 else 0.0, rest)
    else
      (scaled? negative significand (if down then start - e else start + e)).map (·, rest)

/-- What follows the digits before the point: fraction, exponent or nothing.  `extra` counts digits
that did not fit. -/
def fractionOrExponent? (negative : Bool) (significand : Nat) (extra : Nat) (cs : List Char) :
    Option (Number × List Char) :=
  let close (significand : Nat) (e : Int) (cs : List Char) : Option (Number × List Char) :=
    match cs with
    | 'e' :: r | 'E' :: r => (exponent? negative significand e r).map fun p => (.float p.1, p.2)
    | r => (scaled? negative significand e).map fun f => (.float f, r)
  match cs with
  | '.' :: r =>
    match digitRun r with
    | ([], _) => none
    | (ds, rest) =>
      let (s, left) := accumulate significand ds
      close s ((extra : Int) - (ds.length - left : Nat)) rest
  | 'e' :: _ | 'E' :: _ => close significand extra cs
  | r =>
    if extra ≠ 0 then close significand extra r
    else if !negative then some (.int significand, r)
    else if significand = 0 ∨ significand > Nat.pow 2 63 then some (.float (-significand.toFloat), r)
    else some (.int (-(significand : Int)), r)

/-- A number without its sign. -/
def number? (negative : Bool) (cs : List Char) : Option (Number × List Char) :=
  match digitRun cs with
  | ([], _) => none
  | (0 :: _ :: _, _) => none
  | (ds, rest) =>
    let (s, left) := accumulate 0 ds
    fractionOrExponent? negative s left rest

/-! ## Texts -/

/-- The value of a hexadecimal digit. -/
def hexDigit? (c : Char) : Option Nat :=
  if '0' ≤ c ∧ c ≤ '9' then some (c.toNat - '0'.toNat)
  else if 'a' ≤ c ∧ c ≤ 'f' then some (c.toNat - 'a'.toNat + 10)
  else if 'A' ≤ c ∧ c ≤ 'F' then some (c.toNat - 'A'.toNat + 10)
  else none

/-- Four hexadecimal digits. -/
def hex4? : List Char → Option (Nat × List Char)
  | a :: b :: c :: d :: rest => do
    let a ← hexDigit? a
    let b ← hexDigit? b
    let c ← hexDigit? c
    let d ← hexDigit? d
    some (((a * 16 + b) * 16 + c) * 16 + d, rest)
  | _ => none

/-- The character an escape stands for, the backslash having been read.  A code unit of the upper
surrogates needs its lower partner. -/
def escaped? : List Char → Option (Char × List Char)
  | '"' :: r => some ('"', r)
  | '\\' :: r => some ('\\', r)
  | '/' :: r => some ('/', r)
  | 'b' :: r => some ('\x08', r)
  | 'f' :: r => some ('\x0c', r)
  | 'n' :: r => some ('\n', r)
  | 'r' :: r => some ('\r', r)
  | 't' :: r => some ('\t', r)
  | 'u' :: r =>
    match hex4? r with
    | none => none
    | some (u, rest) =>
      if 0xDC00 ≤ u ∧ u ≤ 0xDFFF then none
      else if 0xD800 ≤ u ∧ u ≤ 0xDBFF then
        match rest with
        | '\\' :: 'u' :: r2 =>
          match hex4? r2 with
          | none => none
          | some (v, rest2) =>
            if 0xDC00 ≤ v ∧ v ≤ 0xDFFF then
              some (Char.ofNat (0x10000 + (u - 0xD800) * 0x400 + (v - 0xDC00)), rest2)
            else none
        | _ => none
      else some (Char.ofNat u, rest)
  | _ => none

/-- The rest of a quoted text, the opening quote having been read. -/
def chars? : Nat → List Char → List Char → Option (List Char × List Char)
  | 0, _, _ => none
  | _ + 1, _, [] => none
  | fuel + 1, acc, c :: cs =>
    if c = '"' then some (acc.reverse, cs)
    else if c = '\\' then
      match escaped? cs with
      | none => none
      | some (d, rest) => chars? fuel (d :: acc) rest
    else if c.toNat < 0x20 then none
    else chars? fuel (c :: acc) cs

/-- A quoted text, the opening quote having been read. -/
def string? (cs : List Char) : Option (String × List Char) :=
  (chars? (cs.length + 1) [] cs).map fun p => (String.ofList p.1, p.2)

/-! ## Values -/

/-- Drops blanks: space, tab, line feed and carriage return. -/
def skipBlanks (cs : List Char) : List Char :=
  cs.dropWhile fun c => c = ' ' || c = '\t' || c = '\n' || c = '\r'

/-- Reads a fixed word. -/
def word? (word : List Char) (value : Json) (cs : List Char) : Option (Json × List Char) :=
  if word.isPrefixOf cs then some (value, cs.drop word.length) else none

mutual

/-- A value, blanks before it allowed; `depth` is how many levels may still open. -/
def value? : Nat → Nat → List Char → Option (Json × List Char)
  | 0, _, _ => none
  | fuel + 1, depth, cs =>
    match skipBlanks cs with
    | [] => none
    | '"' :: r => (string? r).map fun p => (.str p.1, p.2)
    | '[' :: r =>
      if depth ≤ 1 then none
      else
        match skipBlanks r with
        | ']' :: rest => some (.arr [], rest)
        | r => (items? fuel (depth - 1) [] r).map fun p => (.arr p.1, p.2)
    | '\x7b' :: r =>
      if depth ≤ 1 then none
      else
        match skipBlanks r with
        | '\x7d' :: rest => some (.obj [], rest)
        | r => (members? fuel (depth - 1) [] r).map fun p => (.obj p.1, p.2)
    | '-' :: r => (number? true r).map fun p => (.num p.1, p.2)
    | 'n' :: r => word? "ull".toList .null r
    | 't' :: r => word? "rue".toList (.bool true) r
    | 'f' :: r => word? "alse".toList (.bool false) r
    | r => (number? false r).map fun p => (.num p.1, p.2)

/-- The items of an array up to its closing bracket. -/
def items? : Nat → Nat → List Json → List Char → Option (List Json × List Char)
  | 0, _, _, _ => none
  | fuel + 1, depth, acc, cs =>
    match value? fuel depth cs with
    | none => none
    | some (v, rest) =>
      match skipBlanks rest with
      | ']' :: r => some ((v :: acc).reverse, r)
      | ',' :: r => items? fuel depth (v :: acc) r
      | _ => none

/-- The members of an object up to its closing brace, as they are written. -/
def members? : Nat → Nat → List (String × Json) → List Char →
    Option (List (String × Json) × List Char)
  | 0, _, _, _ => none
  | fuel + 1, depth, acc, cs =>
    match skipBlanks cs with
    | '"' :: r =>
      match string? r with
      | none => none
      | some (key, rest) =>
        match skipBlanks rest with
        | ':' :: r =>
          match value? fuel depth r with
          | none => none
          | some (v, rest) =>
            match skipBlanks rest with
            | '\x7d' :: r => some ((key, v) :: acc |>.reverse, r)
            | ',' :: r => members? fuel depth ((key, v) :: acc) r
            | _ => none
        | _ => none
    | _ => none

end

/-- Reads a text that holds one value, members of objects as they are written: in any order, and
with names that occur twice. -/
def readAsWritten? (text : String) : Option Json :=
  let cs := text.toList
  match value? (2 * cs.length + 2) 128 cs with
  | some (v, rest) => if (skipBlanks rest).isEmpty then some v else none
  | none => none

mutual

/-- A value with the fields of its objects in order, the last of equal names kept. -/
def settle : Json → Json
  | .arr items => .arr (settleItems items)
  | .obj members => .obj (Fields.ofPairs (settleMembers members))
  | v => v

/-- The items of an array, settled. -/
def settleItems : List Json → List Json
  | [] => []
  | v :: vs => settle v :: settleItems vs

/-- The members of an object, their values settled. -/
def settleMembers : List (String × Json) → List (String × Json)
  | [] => []
  | (k, v) :: ms => (k, settle v) :: settleMembers ms

end

/-- **Reads** a text that holds one value. -/
def read? (text : String) : Option Json := (readAsWritten? text).map settle

end Json

end Scaffold
