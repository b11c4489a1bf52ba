import Scaffold.Template.Token
import Scaffold.Json.Writer
import Scaffold.Text.Quoted
import Scaffold.Text.Split

/-!
# Template/Value — what expressions evaluate to

A `Value` is data, or something only a running template has: a macro, a loop's own variables, a
built-in function.  Values print (`Value.text`, and `Value.shown` inside containers), are equal
(`Value.same`) and ordered (`Value.compare`), and combine under the operators (`Value.operate`).
Integers have 128 bits; mixing them with doubles gives doubles.
-/

namespace Scaffold.Template

/-- The **definition** of a macro. -/
structure Definition where
  name : String
  params : List String
  defaults : List Expr
  body : List Stmt
deriving Inhabited

/-- A **value**. -/
inductive Value where
  | undefined
  | none
  | bool (b : Bool)
  | int (n : Int)
  | float (x : Float)
  /-- Safe text is not escaped when it is printed. -/
  | str (s : String) (safe : Bool)
  /-- A stream is a sequence that was computed rather than written down. -/
  | list (items : List Value) (stream : Bool)
  | map (pairs : List (Value × Value))
  /-- The variables of a running loop: position, length, nesting, and the items before and after. -/
  | loop (index length depth : Nat) (previous next : Value)
  /-- A macro, the number of frames it was defined under, and the frames it brings along. -/
  | routine (definition : Definition) (depth : Nat)
      (captured : Option (List (List (String × Value))))
  | builtin (name : String)
deriving Inhabited

namespace Value

/-- Plain text. -/
def ofText (s : String) : Value := .str s false

/-- A sequence. -/
def ofList (items : List Value) : Value := .list items false

/-- A computed sequence. -/
def ofStream (items : List Value) : Value := .list items true

mutual

/-- The value of data. -/
def ofJson : Json → Value
  | .null => .none
  | .bool b => .bool b
  | .num (.int n) => .int n
  | .num (.float x) => .float x
  | .str s => .str s false
  | .arr items => .list (ofJsonItems items) false
  | .obj fields => .map (ofJsonFields fields)

/-- The values of the items of an array. -/
def ofJsonItems : List Json → List Value
  | [] => []
  | v :: vs => ofJson v :: ofJsonItems vs

/-- The keys and values of the fields of an object. -/
def ofJsonFields : List (String × Json) → List (Value × Value)
  | [] => []
  | (k, v) :: fs => (.str k false, ofJson v) :: ofJsonFields fs

end

/-! ## Printing -/

/-- Doubles print without an exponent. -/
def floatFormat : FloatFormat := ⟨Option.none, Option.none, false, "NaN", "inf"⟩

mutual

/-- A value as it **prints**. -/
def text : Value → String
  | .undefined => ""
  | .none => "None"
  | .bool true => "True"
  | .bool false => "False"
  | .int n => toString n
  | .float x => floatFormat.text x
  | .str s _ => s
  | .list items _ => "[" ++ String.intercalate ", " (shownItems items) ++ "]"
  | .map pairs => "\x7b" ++ String.intercalate ", " (shownPairs pairs) ++ "\x7d"
  | .loop index length _ _ _ => "<loop " ++ toString (index + 1) ++ "/" ++ toString length ++ ">"
  | .routine d _ _ => "<macro " ++ d.name ++ ">"
  | .builtin name => "<function " ++ name ++ ">"

/-- A value as it shows inside a container: text is quoted. -/
def shown : Value → String
  | .undefined => "undefined"
  | .str s _ => Text.quoted s
  | .none => "None"
  | .bool true => "True"
  | .bool false => "False"
  | .int n => toString n
  | .float x => floatFormat.text x
  | .list items _ => "[" ++ String.intercalate ", " (shownItems items) ++ "]"
  | .map pairs => "\x7b" ++ String.intercalate ", " (shownPairs pairs) ++ "\x7d"
  | .loop index length _ _ _ => "<loop " ++ toString (index + 1) ++ "/" ++ toString length ++ ">"
  | .routine d _ _ => "<macro " ++ d.name ++ ">"
  | .builtin name => "<function " ++ name ++ ">"

/-- The items of a sequence, shown. -/
def shownItems : List Value → List String
  | [] => []
  | v :: vs => shown v :: shownItems vs

/-- The pairs of a mapping, shown. -/
def shownPairs : List (Value × Value) → List String
  | [] => []
  | (k, v) :: ps => (shown k ++ ": " ++ shown v) :: shownPairs ps

end

/-! ## Truth, kinds and order -/

/-- Whether a value counts as true. -/
def truthy : Value → Bool
  | .undefined | .none => false
  | .bool b => b
  | .int n => n ≠ 0
  | .float x => !(x == 0.0)
  | .str s _ => !s.isEmpty
  | .list items _ => !items.isEmpty
  | .map pairs => !pairs.isEmpty
  | .loop .. | .routine .. | .builtin _ => true

/-- The rank of a value's kind; values of different kinds are ordered by it. -/
def rank : Value → Nat
  | .undefined => 0
  | .none => 1
  | .bool _ => 2
  | .int _ | .float _ => 3
  | .str _ _ => 4
  | .list _ false => 5
  | .map _ | .loop .. => 6
  | .list _ true => 7
  | .routine .. | .builtin _ => 8

/-- Two values made comparable. -/
inductive Matched where
  | ints (a b : Int)
  | floats (a b : Float)
  | texts (a b : String)

/-- A number or truth value as a double. -/
def asFloat? : Value → Option Float
  | .bool b => some (if b then 1.0 else 0.0)
  | .int n => some (Float.ofInt n)
  | .float x => some x
  | _ => Option.none

/-- A number or truth value as a double that stands for exactly it. -/
def asExactFloat? : Value → Option Float
  | .bool b => some (if b then 1.0 else 0.0)
  | .int n => if truncate (Float.ofInt n) = n then some (Float.ofInt n) else Option.none
  | .float x => some x
  | _ => Option.none

/-- An integer or truth value as an integer. -/
def asInt? : Value → Option Int
  | .bool b => some (if b then 1 else 0)
  | .int n => some n
  | _ => Option.none

/-- A whole number as an integer, a double without fraction included. -/
def asIndex? : Value → Option Int
  | .bool b => some (if b then 1 else 0)
  | .int n => some n
  | .float x =>
    if x.isNaN || x.isInf then Option.none
    else if Float.ofInt (truncate x) == x then some (truncate x) else Option.none
  | _ => Option.none

/-- The text of a string. -/
def str? : Value → Option String
  | .str s _ => some s
  | _ => Option.none

/-- Makes two values comparable: texts, doubles if one is a double, integers. -/
def matched (exact : Bool) (a b : Value) : Option Matched :=
  match a, b with
  | .str s _, .str t _ => some (.texts s t)
  | .float x, .float y => some (.floats x y)
  | .float x, v => ((if exact then asExactFloat? v else asFloat? v)).map (.floats x ·)
  | v, .float y => ((if exact then asExactFloat? v else asFloat? v)).map (.floats · y)
  | v, w =>
    match v.asInt?, w.asInt? with
    | some m, some n => some (.ints m n)
    | _, _ => Option.none

/-- The order of two doubles. -/
def compareFloats (x y : Float) : Ordering :=
  if x < y then .lt else if x == y then .eq else .gt

mutual

/-- Whether two values are **equal**. -/
def same : Value → Value → Bool
  | .undefined, .undefined => true
  | .none, .none => true
  | .list xs _, .list ys _ => sameItems xs ys
  | .map ps, .map qs => samePairs ps qs
  | a, b =>
    match matched true a b with
    | some (.ints m n) => m == n
    | some (.floats x y) => x == y
    | some (.texts s t) => s == t
    | Option.none => false

/-- Whether two sequences are equal item by item. -/
def sameItems : List Value → List Value → Bool
  | [], [] => true
  | x :: xs, y :: ys => same x y && sameItems xs ys
  | _, _ => false

/-- Whether two mappings are equal pair by pair. -/
def samePairs : List (Value × Value) → List (Value × Value) → Bool
  | [], [] => true
  | (k, v) :: ps, (l, w) :: qs => same k l && same v w && samePairs ps qs
  | _, _ => false

end

mutual

/-- The **order** of two values; different kinds are ordered by rank. -/
def compare : Value → Value → Ordering
  | .list xs _, .list ys _ => compareItems xs ys
  | .map ps, .map qs => comparePairs ps qs
  | a, b =>
    match matched true a b with
    | some (.ints m n) => Ord.compare m n
    | some (.floats x y) => compareFloats x y
    | some (.texts s t) => Ord.compare s t
    | Option.none => Ord.compare a.rank b.rank

/-- The order of two sequences: the first difference decides. -/
def compareItems : List Value → List Value → Ordering
  | [], [] => .eq
  | [], _ :: _ => .lt
  | _ :: _, [] => .gt
  | x :: xs, y :: ys => (compare x y).then (compareItems xs ys)

/-- The order of two mappings: the first difference decides. -/
def comparePairs : List (Value × Value) → List (Value × Value) → Ordering
  | [], [] => .eq
  | [], _ :: _ => .lt
  | _ :: _, [] => .gt
  | (k, v) :: ps, (l, w) :: qs =>
    ((compare k l).then (compare v w)).then (comparePairs ps qs)

end

/-! ## Operators -/

/-- Whether an integer has at most 128 bits. -/
def fits (n : Int) : Bool := decide (-Int.pow 2 127 ≤ n) && decide (n < Int.pow 2 127)

/-- An integer result, refused when it does not fit. -/
def checked (n : Int) : Except Fault Value :=
  if fits n then .ok (.int n) else .error .invalidOperation

/-- Arithmetic on matched numbers. -/
def arithmetic (ints : Int → Int → Except Fault Value) (floats : Float → Float → Float)
    (a b : Value) : Except Fault Value :=
  match matched false a b with
  | some (.ints m n) => ints m n
  | some (.floats x y) => .ok (.float (floats x y))
  | _ => .error .invalidOperation

/-- Adds numbers, appends texts and sequences. -/
def add (a b : Value) : Except Fault Value :=
  match a, b with
  | .list xs _, .list ys _ => .ok (.list (xs ++ ys) true)
  | .str s _, .str t _ => .ok (.str (s ++ t) false)
  | a, b => arithmetic (fun m n => checked (m + n)) (· + ·) a b

/-- A text repeated. -/
def repeated (s : String) (n : Value) : Except Fault Value :=
  match n.asIndex? with
  | some k =>
    if 0 ≤ k then .ok (.str (String.join (List.replicate k.toNat s)) false)
    else .error .invalidOperation
  | Option.none => .error .invalidOperation

/-- Multiplies numbers, repeats texts and sequences. -/
def mul (a b : Value) : Except Fault Value :=
  match a, b with
  | .str s _, n => repeated s n
  | n, .str s _ => repeated s n
  | .list xs _, n | n, .list xs _ =>
    match n.asIndex? with
    | some k =>
      if 0 ≤ k then .ok (.list (List.replicate k.toNat xs).flatten true)
      else .error .invalidOperation
    | Option.none => .error .invalidOperation
  | a, b => arithmetic (fun m n => checked (m * n)) (· * ·) a b

/-- The quotient as a double. -/
def div (a b : Value) : Except Fault Value :=
  match a.asFloat?, b.asFloat? with
  | some x, some y => .ok (.float (x / y))
  | _, _ => .error .invalidOperation

/-- The quotient of doubles with a remainder that is not negative. -/
def floorQuotient (x y : Float) : Float :=
  let q := x / y
  let whole := if q < 0.0 then q.ceil else q.floor
  if remainder x y < 0.0 then if y > 0.0 then whole - 1.0 else whole + 1.0 else whole

/-- The whole quotient whose remainder is not negative. -/
def floorDiv : Value → Value → Except Fault Value :=
  arithmetic (fun m n => if n = 0 then .error .invalidOperation else checked (m / n)) floorQuotient

/-- The remainder, not negative for integers. -/
def rem : Value → Value → Except Fault Value :=
  arithmetic (fun m n => if n = 0 then .error .invalidOperation else checked (m % n)) remainder

/-- The power of integers, refused for negative and for far too large exponents. -/
def power (m n : Int) : Except Fault Value :=
  if n < 0 ∨ n ≥ Int.pow 2 32 then .error .invalidOperation
  else if m = 0 ∨ m = 1 ∨ m = -1 then
    .ok (.int (if n = 0 then 1 else if m = -1 ∧ n % 2 = 0 then 1 else m))
  else if n > 127 then .error .invalidOperation
  else checked (Int.pow m n.toNat)

/-- Whether a value is part of a container: a part of a text, a key, an item. -/
def contains (container value : Value) : Except Fault Value :=
  match container with
  | .undefined => .ok (.bool false)
  | .str s _ => .ok (.bool (Text.occursIn value.text.toList s.toList))
  | .list items _ => .ok (.bool (items.any fun v => same v value))
  | .map pairs => .ok (.bool (pairs.any fun p => same p.1 value))
  | .loop .. | .routine .. | .builtin _ => .ok (.bool false)
  | _ => .error .invalidOperation

/-- Applies a **binary operator** other than the two that may skip their right side. -/
def operate (op : Operator) (a b : Value) : Except Fault Value :=
  match op with
  | .add => add a b
  | .sub => arithmetic (fun m n => checked (m - n)) (· - ·) a b
  | .mul => mul a b
  | .div => div a b
  | .floorDiv => floorDiv a b
  | .rem => rem a b
  | .pow => arithmetic power (fun x y => x ^ y) a b
  | .concat => .ok (.str (a.text ++ b.text) false)
  | .eq => .ok (.bool (same a b))
  | .ne => .ok (.bool (!same a b))
  | .lt => .ok (.bool (compare a b == .lt))
  | .le => .ok (.bool (compare a b != .gt))
  | .gt => .ok (.bool (compare a b == .gt))
  | .ge => .ok (.bool (compare a b != .lt))
  | .isIn => contains b a
  | .and => .ok (if a.truthy then b else a)
  | .or => .ok (if a.truthy then a else b)

/-- The negative of a number. -/
def negate : Value → Except Fault Value
  | .int n => checked (-n)
  | .float x => .ok (.float (-x))
  | _ => .error .invalidOperation

/-! ## Parts -/

/-- The items a loop runs over: those of a sequence, the keys of a mapping, the characters of a
text, none of what is missing. -/
def items? : Value → Option (List Value)
  | .undefined | .none => some []
  | .str s _ => some (s.toList.map fun c => .str (String.singleton c) false)
  | .list items _ => some items
  | .map pairs => some (pairs.map (·.1))
  | _ => Option.none

/-- The items of a value that can be looped over. -/
def items (v : Value) : Except Fault (List Value) :=
  match v.items? with
  | some vs => .ok vs
  | Option.none => .error .invalidOperation

/-- The value a mapping has under a key. -/
def valueAt : List (Value × Value) → Value → Value
  | [], _ => .undefined
  | (k, v) :: ps, key => if same k key then v else valueAt ps key

/-- Sets the value of a mapping under a key, keys in order. -/
def setPair : List (Value × Value) → Value → Value → List (Value × Value)
  | [], key, value => [(key, value)]
  | (k, v) :: ps, key, value =>
    match compare key k with
    | .eq => (k, value) :: ps
    | .lt => (key, value) :: (k, v) :: ps
    | .gt => (k, v) :: setPair ps key value

/-- The item at a position, counted from the end when negative. -/
def nth (xs : List Value) (i : Int) : Value :=
  let j := if i < 0 then i + xs.length else i
  if j < 0 then .undefined else (xs[j.toNat]?).getD .undefined

/-- The variables of a loop by name. -/
def loopPart (index length depth : Nat) (previous next : Value) : String → Value
  | "index0" => .int index
  | "index" => .int (index + 1)
  | "length" => .int length
  | "revindex" => .int (length - index : Nat)
  | "revindex0" => .int (length - index - 1 : Nat)
  | "first" => .bool (index == 0)
  | "last" => .bool (index + 1 == length)
  | "depth" => .int (depth + 1)
  | "depth0" => .int depth
  | "previtem" => previous
  | "nextitem" => next
  | _ => .undefined

/-- What a **subscript** selects; undefined if there is nothing. -/
def item (v key : Value) : Except Fault Value :=
  match v with
  | .undefined => .error .undefinedError
  | .map pairs => .ok (valueAt pairs key)
  | .list xs _ => .ok (match key.asIndex? with | some i => nth xs i | Option.none => .undefined)
  | .str s _ =>
    .ok (match key.asIndex? with
      | some i => nth (s.toList.map fun c => .str (String.singleton c) false) i
      | Option.none => .undefined)
  | .loop index length depth previous next =>
    .ok (match key with
      | .str name _ => loopPart index length depth previous next name
      | _ => .undefined)
  | _ => .ok .undefined

/-- What an **attribute** selects; undefined if there is nothing. -/
def attr (v : Value) (name : String) : Except Fault Value :=
  match v with
  | .undefined => .error .undefinedError
  | .map pairs => .ok (valueAt pairs (.str name false))
  | .loop index length depth previous next => .ok (loopPart index length depth previous next name)
  | _ => .ok .undefined

/-- Every item at positions that grow by `step`. -/
def stride (step : Nat) : Nat → List Value → List Value
  | _, [] => []
  | 0, x :: xs => x :: stride step (step - 1) xs
  | n + 1, _ :: xs => stride step n xs

/-- The items from a start to a stop, positions counted from the end when negative. -/
def sliced (xs : List Value) (start stop : Option Int) (step : Int) : List Value :=
  let n : Int := xs.length
  let place (i : Int) (low high : Int) : Int := max low (min high (if i < 0 then i + n else i))
  if 0 < step then
    let a := (start.map fun i => place i 0 n).getD 0
    let b := (stop.map fun i => place i 0 n).getD n
    stride step.toNat 0 ((xs.take b.toNat).drop a.toNat)
  else
    let a := (start.map fun i => place i (-1) (n - 1)).getD (n - 1)
    let b := (stop.map fun i => place i (-1) (n - 1)).getD (-1)
    stride (-step).toNat 0 ((xs.take (a + 1).toNat).drop (b + 1).toNat).reverse

/-- A bound of a slice. -/
def bound : Value → Except Fault (Option Int)
  | .none => .ok Option.none
  | v =>
    match v.asIndex? with
    | some i => .ok (some i)
    | Option.none => .error .invalidOperation

/-- A **slice**. -/
def slice (v start stop step : Value) : Except Fault Value :=
  match bound start, bound stop, bound step with
  | .ok a, .ok b, .ok s =>
    if s = some 0 then .error .invalidOperation
    else
      let step := s.getD 1
      match v with
      | .undefined | .none => .ok (.list [] false)
      | .str s _ =>
        let chars := s.toList.map fun c => Value.str (String.singleton c) false
        .ok (.str (String.join ((sliced chars a b step).map text)) false)
      | .list xs _ => .ok (.list (sliced xs a b step) true)
      | _ => .error .invalidOperation
  | _, _, _ => .error .invalidOperation

/-! ## Back to data -/

mutual

/-- A value as data. -/
def toJson : Value → Except Fault Json
  | .undefined | .none => .ok .null
  | .bool b => .ok (.bool b)
  | .int n => .ok (.num (.int n))
  | .float x => .ok (.num (.float x))
  | .str s _ => .ok (.str s)
  | .list items _ => (toJsonItems items).map .arr
  | .map pairs => (toJsonFields pairs).map .obj
  | v => .ok (.str v.text)

/-- The items of a sequence as data. -/
def toJsonItems : List Value → Except Fault (List Json)
  | [] => .ok []
  | v :: vs =>
    match toJson v, toJsonItems vs with
    | .ok j, .ok js => .ok (j :: js)
    | .error e, _ => .error e
    | _, .error e => .error e

/-- The pairs of a mapping as fields; keys are texts, numbers or truth values. -/
def toJsonFields : List (Value × Value) → Except Fault (List (String × Json))
  | [] => .ok []
  | (k, v) :: ps =>
    let key : Except Fault String :=
      match k with
      | .str s _ => .ok s
      | .int n => .ok (toString n)
      | .bool b => .ok (if b then "true" else "false")
      | .float x => .ok (Json.numberText (.float x))
      | _ => .error .badSerialization
    match key, toJson v, toJsonFields ps with
    | .ok key, .ok j, .ok js => .ok ((key, j) :: js)
    | .error e, _, _ => .error e
    | _, .error e, _ => .error e
    | _, _, .error e => .error e

end

/-! ## Escaping -/

/-- A character inside a page of markup. -/
def markupChar (c : Char) : String :=
  if c = '<' then "&lt;"
  else if c = '>' then "&gt;"
  else if c = '&' then "&amp;"
  else if c = '"' then "&quot;"
  else if c = '\'' then "&#x27;"
  else if c = '/' then "&#x2f;"
  else String.singleton c

/-- How printed values are **escaped**. -/
inductive Escape where
  | plain
  | markup
  | data
deriving DecidableEq, Inhabited

/-- A value as a template prints it. -/
def printed : Escape → Value → Except Fault String
  | .plain, v => .ok v.text
  | _, .str s true => .ok s
  | .markup, .str s false => .ok (String.join (s.toList.map markupChar))
  | .markup, v =>
    if v.rank ≤ 3 then .ok v.text else .ok (String.join (v.text.toList.map markupChar))
  | .data, v => (toJson v).map Json.text

end Value

end Scaffold.Template
