/-!
# Number/Shortest — the fewest digits that read back

A finite positive double is `m · 2^q` (`Parts`).  The reals that round to it form an interval, ends
included when `m` is even; `Decimal.ofFloat` is the decimal with the fewest digits in that interval, and of
two such decimals the nearer one.  `FloatFormat` says how the digits are laid out, `FloatFormat.text`
lays them out.
-/

namespace Scaffold

/-- The **parts** of a finite double: its value is `mantissa · 2^exponent`. -/
structure Parts where
  mantissa : Nat
  exponent : Int
  /-- The gap below is half the gap above: the mantissa is a power of two above the smallest. -/
  narrowBelow : Bool
deriving DecidableEq, Repr

/-- A **decimal**: `digits · 10^exponent`. -/
structure Decimal where
  digits : Nat
  exponent : Int
deriving DecidableEq, Repr

namespace Parts

/-- The parts of a finite double, its sign dropped. -/
def ofFloat (x : Float) : Parts :=
  let bits := x.toBits.toNat
  let fraction : Nat := bits % Nat.pow 2 52
  let biased : Nat := bits / Nat.pow 2 52 % Nat.pow 2 11
  if biased = 0 then ⟨fraction, -1074, false⟩
  else ⟨Nat.pow 2 52 + fraction, (biased : Int) - 1075, fraction == 0 && biased != 1⟩

/-- `a · 2^e` against `b · 10^k`: both sides scaled to naturals. -/
def scaled (a : Nat) (e : Int) (b : Nat) (k : Int) : Nat × Nat :=
  (a * Nat.pow 2 e.toNat * Nat.pow 10 (-k).toNat, b * Nat.pow 10 k.toNat * Nat.pow 2 (-e).toNat)

/-- Whether `d · 10^k` rounds to the double: it lies between the midpoints to its neighbours. -/
def contains (p : Parts) (d : Nat) (k : Int) : Bool :=
  let below := 4 * p.mantissa - if p.narrowBelow then 1 else 2
  let above := 4 * p.mantissa + 2
  let (lo, x) := scaled below (p.exponent - 2) d k
  let (hi, y) := scaled above (p.exponent - 2) d k
  if p.mantissa % 2 = 0 then decide (lo ≤ x) && decide (y ≤ hi)
  else decide (lo < x) && decide (y < hi)

/-- The greatest multiple of `10^k` not above the value, in units of `10^k`. -/
def floorAt (p : Parts) (k : Int) : Nat :=
  let (num, den) := scaled p.mantissa p.exponent 1 k
  num / den

/-- Whether the value is nearer to `(d+1) · 10^k` than to `d · 10^k`, a tie going to the even. -/
def nearerAbove (p : Parts) (d : Nat) (k : Int) : Bool :=
  let (num, den) := scaled p.mantissa p.exponent 1 k
  let twice := 2 * num
  let middle := (2 * d + 1) * den
  decide (middle < twice) || (middle == twice && d % 2 == 1)

/-- The decimal on the grid `10^k` that reads back, if the grid has one. -/
def onGrid? (p : Parts) (k : Int) : Option Nat :=
  let d := p.floorAt k
  match p.contains d k && d != 0, p.contains (d + 1) k with
  | true, true => some (if p.nearerAbove d k then d + 1 else d)
  | true, false => some d
  | false, true => some (d + 1)
  | false, false => none

/-- The place of the first digit: the greatest `e` with `10^e` not above the value. -/
def leading (p : Parts) : Int :=
  let guess : Int := ((p.mantissa.log2 : Int) + p.exponent) * 30103 / 100000
  if p.floorAt (guess + 1) ≠ 0 then guess + 1
  else if p.floorAt guess ≠ 0 then guess
  else guess - 1

/-- Tries ever finer grids, from the one on which the value has `n` digits. -/
def search (p : Parts) (lead : Int) (n : Nat) : Nat → Decimal
  | 0 => ⟨p.floorAt (lead - 16), lead - 16⟩
  | fuel + 1 =>
    let k := lead + 1 - (n : Int)
    match p.onGrid? k with
    | some d => ⟨d, k⟩
    | none => search p lead (n + 1) fuel

end Parts

/-- Trailing zeros of the digits move into the exponent. -/
def Decimal.strip (d : Decimal) : Nat → Decimal
  | 0 => d
  | fuel + 1 =>
    if d.digits ≠ 0 ∧ d.digits % 10 = 0 then Decimal.strip ⟨d.digits / 10, d.exponent + 1⟩ fuel
    else d

/-- The **shortest** decimal that reads back as the finite nonzero double. -/
def Decimal.ofFloat (x : Float) : Decimal :=
  let p := Parts.ofFloat x
  (p.search p.leading 1 17).strip 20

/-- The **layout** of a printed double. -/
structure FloatFormat where
  /-- Values from `10^least` up are positional; `none` means all of them. -/
  least : Option Int
  /-- Values below `10^limit` are positional; `none` means all of them. -/
  limit : Option Int
  /-- A plus sign stands before a positive exponent. -/
  plus : Bool
  nan : String
  infinity : String

namespace FloatFormat

/-- Digits with the point placed so that the last digit has weight `10^exponent`, `.0` kept. -/
def positional (d : Decimal) : String :=
  let ds := toString d.digits
  if 0 ≤ d.exponent then
    ds ++ String.ofList (List.replicate d.exponent.toNat '0') ++ ".0"
  else
    let places := (-d.exponent).toNat
    let padded := String.ofList (List.replicate (places + 1 - ds.length) '0') ++ ds
    let cut := padded.length - places
    String.ofList (padded.toList.take cut) ++ "." ++ String.ofList (padded.toList.drop cut)

/-- One digit, the point, the other digits and the power of ten. -/
def scientific (f : FloatFormat) (d : Decimal) : String :=
  match (toString d.digits).toList with
  | [] => ""
  | c :: rest =>
    let power := d.exponent + rest.length
    let fraction := if rest.isEmpty then "" else "." ++ String.ofList rest
    let sign := if 0 ≤ power ∧ f.plus then "+" else ""
    String.singleton c ++ fraction ++ "e" ++ sign ++ toString power

/-- The text of a double. -/
def text (f : FloatFormat) (x : Float) : String :=
  if x.isNaN then f.nan
  else
    let sign := if x.toBits.toNat / Nat.pow 2 63 = 1 then "-" else ""
    if x.isInf then sign ++ f.infinity
    else if x == 0.0 then sign ++ "0.0"
    else
      let d := Decimal.ofFloat x
      let power := d.exponent + ((toString d.digits).length : Int) - 1
      let small := f.least.all (fun e => decide (e ≤ power))
      let large := f.limit.all (fun e => decide (power < e))
      sign ++ if small && large then positional d else f.scientific d

end FloatFormat

end Scaffold
