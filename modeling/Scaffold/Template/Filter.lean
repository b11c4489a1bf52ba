import Scaffold.Template.Value
import Scaffold.Text.Case
import Scaffold.Text.Casing

/-!
# Template/Filter — filters and tests

A filter makes a value from a value and arguments (`Filter.apply`), a test answers yes or no about a
value (`Test.holds`).  Most filters read their value as text, whatever it is.  Sorting and comparing
ignore case unless told otherwise.
-/

namespace Scaffold.Template

/-- The **arguments** of a filter, a test or a call. -/
structure Given where
  values : List Value
  named : List (String × Value)
deriving Inhabited

namespace Given

/-- All arguments in order; named ones make up one last mapping. -/
def all (g : Given) : List Value :=
  if g.named.isEmpty then g.values
  else g.values ++ [.map (g.named.foldl (fun ps p => Value.setPair ps (Value.ofText p.1) p.2) [])]

/-- The argument under a name. -/
def get? (g : Given) (name : String) : Option Value :=
  (g.named.find? fun p => p.1 == name).map (·.2)

/-- Demands that only some names are used. -/
def only (g : Given) (names : List String) : Except Fault Unit :=
  if g.named.all (fun p => names.contains p.1) then .ok () else .error .tooManyArguments

end Given

/-- Whether an argument counts as left out. -/
def Value.isAbsent : Value → Bool
  | .undefined | .none => true
  | _ => false

namespace Filter

/-- No argument. -/
def none (result : Except Fault Value) : List Value → Except Fault Value
  | [] => result
  | _ => .error .tooManyArguments

/-- One argument that may be left out. -/
def optional (result : Option Value → Except Fault Value) : List Value → Except Fault Value
  | [] => result Option.none
  | [v] => result (if v.isAbsent then Option.none else some v)
  | _ => .error .tooManyArguments

/-- The text that a map of texts makes of a value's text. -/
def textual (f : List Char → List Char) (v : Value) : Except Fault Value :=
  .ok (Value.ofText (String.ofList (f v.text.toList)))

/-! ## Text -/

/-- Whether a character is punctuation of the first 128 characters. -/
def isPunctuation (c : Char) : Bool :=
  decide (0x21 ≤ c.toNat) && decide (c.toNat ≤ 0x7E) && !c.isAlphanum

/-- Every word starts with a capital; blanks and punctuation separate words. -/
def title (start : Bool) : List Char → List Char
  | [] => []
  | c :: cs =>
    if isPunctuation c || Text.isBlank c then c :: title true cs
    else if start then Text.upper [c] ++ title false cs
    else Text.lower [c] ++ title false cs

/-- The first character is a capital, the others are not. -/
def capitalize : List Char → List Char
  | [] => []
  | c :: cs => Text.upper [c] ++ Text.lower cs

/-- Pieces between runs of blanks. -/
def words (cs : List Char) : List (List Char) :=
  (Text.splitChar ' ' (cs.map fun c => if Text.isBlank c then ' ' else c)).filter (!·.isEmpty)

/-- Joins pieces beyond a count again. -/
def limited (sep : List Char) (limit : Option Nat) (pieces : List (List Char)) : List (List Char) :=
  match limit with
  | some n =>
    if n < pieces.length then pieces.take n ++ [Text.joinWith sep (pieces.drop n)] else pieces
  | Option.none => pieces

/-- The pieces of a text. -/
def split (v : Value) : List Value → Except Fault Value
  | [] => pieces v Option.none Option.none
  | [s] => pieces v (absentOr s) Option.none
  | [s, n] => pieces v (absentOr s) (absentOr n)
  | _ => .error .tooManyArguments
where
  absentOr (v : Value) : Option Value := if v.isAbsent then Option.none else some v
  pieces (v : Value) (sep limit : Option Value) : Except Fault Value :=
    match v.str?, sep, limit.map Value.asIndex? with
    | Option.none, _, _ | _, _, some Option.none => .error .invalidOperation
    | some s, Option.none, limit =>
      match limit with
      | some (some (.ofNat n)) =>
        let spaced := s.toList.map fun c => if Text.isBlank c then ' ' else c
        .ok (results (limited [' '] (some n) (Text.splitChar ' ' spaced)))
      | _ => .ok (results (words s.toList))
    | some s, some sep, limit =>
      match sep.str? with
      | some sep =>
        let count := match limit with | some (some (.ofNat n)) => some n | _ => Option.none
        .ok (results (limited sep.toList count (Text.splitText sep.toList s.toList)))
      | Option.none => .error .invalidOperation
  results (ps : List (List Char)) : Value :=
    .ofStream (ps.map fun p => Value.ofText (String.ofList p))

/-- A byte as it stands in an address: letters, digits and a few signs stand for themselves. -/
def percentByte (b : UInt8) : List Char :=
  let c := Char.ofNat b.toNat
  if b < 128 && (c.isAlphanum || c == '/' || c == '.' || c == '-' || c == '_') then [c]
  else '%' :: ((Json.hex 2 b.toNat).toList.map Char.toUpper)

/-- A text as it stands in an address. -/
def percent (s : String) : String := String.ofList (s.toUTF8.toList.flatMap percentByte)

/-- A value as it stands in an address; a mapping becomes a query. -/
def urlencode : Value → String
  | .map pairs =>
    Text.join "&" ((pairs.filter fun p => !p.2.isAbsent).map fun p =>
      percent p.1.text ++ "=" ++ percent p.2.text)
  | v => if v.isAbsent then "" else percent v.text

/-- A character of data inside a page of markup. -/
def dataChar (c : Char) : String :=
  if c = '<' then "\\u003c"
  else if c = '>' then "\\u003e"
  else if c = '&' then "\\u0026"
  else if c = '\'' then "\\u0027"
  else String.singleton c

mutual

/-- Data over several lines, `unit` blanks per level. -/
def indented (unit level : Nat) : Json → String
  | .arr [] => "[]"
  | .obj [] => "\x7b\x7d"
  | .arr items =>
    let pad := "\n" ++ String.ofList (List.replicate (unit * (level + 1)) ' ')
    "[" ++ String.intercalate "," ((indentedItems unit (level + 1) items).map (pad ++ ·)) ++
      "\n" ++ String.ofList (List.replicate (unit * level) ' ') ++ "]"
  | .obj fields =>
    let pad := "\n" ++ String.ofList (List.replicate (unit * (level + 1)) ' ')
    "\x7b" ++ String.intercalate "," ((indentedFields unit (level + 1) fields).map (pad ++ ·)) ++
      "\n" ++ String.ofList (List.replicate (unit * level) ' ') ++ "\x7d"
  | v => v.text

/-- The items of an array over several lines. -/
def indentedItems (unit level : Nat) : List Json → List String
  | [] => []
  | v :: vs => indented unit level v :: indentedItems unit level vs

/-- The fields of an object over several lines. -/
def indentedFields (unit level : Nat) : List (String × Json) → List String
  | [] => []
  | (k, v) :: fs => (Json.quote k ++ ": " ++ indented unit level v) :: indentedFields unit level fs

end

/-- Data as text that is safe in a page. -/
def tojson (v : Value) (indent : Option Value) : Except Fault Value :=
  let unit : Except Fault (Option Nat) :=
    match indent with
    | Option.none => .ok Option.none
    | some (.bool b) => .ok (if b then some 2 else Option.none)
    | some w =>
      match w.asIndex? with
      | some (.ofNat n) => .ok (some n)
      | _ => .error .invalidOperation
  match unit, v.toJson with
  | .error e, _ => .error e
  | _, .error _ => .error .badSerialization
  | .ok unit, .ok data =>
    let raw := match unit with | some n => indented n 0 data | Option.none => data.text
    .ok (.str (String.join (raw.toList.map dataChar)) true)

/-! ## Numbers -/

/-- The greatest integer. -/
def greatest : Int := Int.pow 2 127 - 1

/-- A double cut to an integer; what is out of range ends at its end, no number is zero. -/
def toInteger (x : Float) : Int :=
  if x.isNaN then 0
  else if x.isInf then (if x < 0.0 then -greatest - 1 else greatest)
  else max (-greatest - 1) (min greatest (truncate x))

/-- A whole number. -/
def int (v : Value) : Except Fault Value :=
  match v with
  | .undefined | .none => .ok (.int 0)
  | .bool b => .ok (.int (if b then 1 else 0))
  | .int n => .ok (.int n)
  | .float x => .ok (.int (toInteger x))
  | .str s _ =>
    match (Literal.readInt? s.toList).filter Value.fits with
    | some n => .ok (.int n)
    | Option.none =>
      match Literal.readFloat? s.toList with
      | some x => .ok (.int (toInteger x))
      | Option.none => .error .invalidOperation
  | _ => .error .invalidOperation

/-- A double. -/
def float (v : Value) : Except Fault Value :=
  match v with
  | .undefined | .none => .ok (.float 0.0)
  | .str s _ =>
    match Literal.readFloat? s.toList with
    | some x => .ok (.float x)
    | Option.none => .error .invalidOperation
  | v =>
    match v.asFloat? with
    | some x => .ok (.float x)
    | Option.none => .error .invalidOperation

/-- A number without its sign. -/
def abs : Value → Except Fault Value
  | .int n => Value.checked n.natAbs
  | .float x => .ok (.float x.abs)
  | _ => .error .invalidOperation

/-- A power of ten by repeated squaring. -/
def tenTo (n : Nat) : Float :=
  go 10.0 1.0 n 64
where
  go (base acc : Float) (n : Nat) : Nat → Float
    | 0 => acc
    | fuel + 1 =>
      let acc := if n % 2 = 1 then acc * base else acc
      if n / 2 = 0 then acc else go (base * base) acc (n / 2) fuel

/-- A double rounded to some places, halves away from zero. -/
def round (v : Value) (places : Option Value) : Except Fault Value :=
  match v, (places.map Value.asIndex?).getD (some 0) with
  | _, Option.none => .error .invalidOperation
  | .int n, _ => .ok (.int n)
  | .float x, some p =>
    let scale := if p < 0 then 1.0 / tenTo p.natAbs else tenTo p.natAbs
    .ok (.float ((scale * x).round / scale))
  | _, _ => .error .invalidOperation

/-! ## Sequences -/

/-- The value along a dotted path of attributes and positions. -/
def along (path : String) (v : Value) : Value :=
  (Text.split '.' path).foldl
    (fun v part =>
      let key := match Literal.readNat? 10 part.toList with
        | some n => Value.int n
        | Option.none => Value.ofText part
      match Value.item v key with
      | .ok w => w
      | .error _ => .undefined)
    v

/-- What decides the place of an item: the part at `attribute`, case set aside. -/
def sortKey (g : Given) (v : Value) : Value :=
  let v := match (g.get? "attribute").bind Value.str? with
    | some path => along path v
    | Option.none => v
  match v with
  | .str s _ =>
    if (g.get? "case_sensitive").any Value.truthy then v else Value.ofText (String.ofList (Text.lower s.toList))
  | v => v

/-- The items in order; equal ones keep their places. -/
def sort (g : Given) (v : Value) : Except Fault Value :=
  match g.only ["reverse", "attribute", "case_sensitive"], v.items with
  | .error e, _ => .error e
  | _, .error e => .error e
  | .ok (), .ok items =>
    let down := (g.get? "reverse").any Value.truthy
    let keyed := items.map fun i => (sortKey g i, i)
    let le (a b : Value × Value) : Bool :=
      let o := Value.compare a.1 b.1
      if down then o != .lt else o != .gt
    .ok (.ofList ((keyed.mergeSort le).map (·.2)))

/-- Items whose key has not occurred before. -/
def distinct (g : Given) (seen : List Value) : List Value → List Value
  | [] => []
  | v :: vs =>
    let key := sortKey g v
    if seen.any fun w => Value.compare w key == .eq then distinct g seen vs
    else v :: distinct g (key :: seen) vs

/-- Each item once. -/
def unique (g : Given) (v : Value) : Except Fault Value :=
  match g.only ["attribute", "case_sensitive"], v.items with
  | .error e, _ => .error e
  | _, .error e => .error e
  | .ok (), .ok items => .ok (.ofList (distinct g [] items))

/-- Items as text; a separator stands before every item but those that nothing precedes. -/
def joined (sep : String) (items : List Value) : String :=
  items.foldl (fun acc v => (if acc.isEmpty then acc else acc ++ sep) ++ v.text) ""

/-- Items as one text. -/
def join (v : Value) (sep : Option Value) : Except Fault Value :=
  match v.items? with
  | some items => .ok (Value.ofText (joined ((sep.map Value.text).getD "") items))
  | Option.none => .error .invalidOperation

/-- The number of items, keys or characters. -/
def length : Value → Except Fault Value
  | .str s _ => .ok (.int s.length)
  | .list items _ => .ok (.int items.length)
  | .map pairs => .ok (.int pairs.length)
  | _ => .error .invalidOperation

/-- The items of a sequence, the keys of a mapping, the characters of a text; nothing else has
any. -/
def ends : Value → Except Fault (List Value)
  | .undefined | .none => .error .invalidOperation
  | v => v.items

/-- The same the other way round. -/
def reverse : Value → Except Fault Value
  | .undefined => .ok .undefined
  | .none => .ok .none
  | .str s _ => .ok (Value.ofText (String.ofList s.toList.reverse))
  | v =>
    match v.items with
    | .ok items => .ok (.ofStream items.reverse)
    | .error e => .error e

/-- The pairs of a mapping. -/
def items : Value → Except Fault Value
  | .map pairs => .ok (.ofStream (pairs.map fun p => .ofList [p.1, p.2]))
  | _ => .error .invalidOperation

/-- The extreme item of a sequence. -/
def extreme (wanted : Ordering) (v : Value) : Except Fault Value :=
  match v.items with
  | .error e => .error e
  | .ok [] => .ok .undefined
  | .ok (i :: is) =>
    .ok (is.foldl (fun best w => if Value.compare w best == wanted then w else best) i)

/-- What stands in for a value that is not there, or, with `lax`, for one that counts as false. -/
def default (v : Value) : List Value → Except Fault Value
  | [] => .ok (if isMissing v then Value.ofText "" else v)
  | [other] => .ok (if isMissing v then other else v)
  | [other, lax] =>
    match lax with
    | .bool lax => .ok (if isMissing v || (lax && !v.truthy) then other else v)
    | .undefined | .none => .ok (if isMissing v then other else v)
    | _ => .error .invalidOperation
  | _ => .error .tooManyArguments
where
  isMissing : Value → Bool
    | .undefined => true
    | _ => false

/-- Replaces every occurrence of a text. -/
def replace (v : Value) : List Value → Except Fault Value
  | [old, new] => textual (Text.replaceText old.text.toList new.text.toList) v
  | [] | [_] => .error .missingArgument
  | _ => .error .tooManyArguments

/-- Drops characters at both ends: blanks, or those of a text. -/
def trim (v : Value) (chars : Option Value) : Except Fault Value :=
  match chars with
  | some w => let cs := w.text.toList; textual (Text.trimBy cs.contains) v
  | Option.none => textual Text.trim v

/-- **Applies** a filter. -/
def apply (name : String) (v : Value) (g : Given) : Except Fault Value :=
  match name with
  | "upper" => none (textual Text.upper v) g.all
  | "lower" => none (textual Text.lower v) g.all
  | "title" => none (textual (title true) v) g.all
  | "capitalize" => none (textual capitalize v) g.all
  | "trim" => optional (trim v) g.all
  | "replace" => replace v g.all
  | "default" | "d" => default v g.all
  | "join" => optional (join v) g.all
  | "length" | "count" => none (length v) g.all
  | "first" => none ((ends v).map fun is => is.head?.getD .undefined) g.all
  | "last" => none ((ends v).map fun is => is.getLast?.getD .undefined) g.all
  | "sort" => if g.values.isEmpty then sort g v else .error .tooManyArguments
  | "reverse" => none (reverse v) g.all
  | "unique" => if g.values.isEmpty then unique g v else .error .tooManyArguments
  | "list" => none (v.items.map Value.ofList) g.all
  | "items" => none (items v) g.all
  | "min" => none (extreme .lt v) g.all
  | "max" => none (extreme .gt v) g.all
  | "tojson" =>
    match g.only ["indent"] with
    | .error e => .error e
    | .ok () => optional (fun indent => tojson v (indent <|> (g.get? "indent").filter (!·.isAbsent))) g.values
  | "urlencode" => none (.ok (Value.ofText (urlencode v))) g.all
  | "int" => none (int v) g.all
  | "float" => none (float v) g.all
  | "bool" => none (.ok (.bool v.truthy)) g.all
  | "abs" => none (abs v) g.all
  | "round" => optional (round v) g.all
  | "string" => none (.ok (match v with | .str s b => .str s b | v => Value.ofText v.text)) g.all
  | "safe" => none (.ok (.str v.text true)) g.all
  | "split" => split v g.all
  | "snake_case" => none (.ok (Value.ofText (Text.snake v.text))) g.all
  | "kebab_case" => none (.ok (Value.ofText (Text.kebab v.text))) g.all
  | "pascal_case" => none (.ok (Value.ofText (Text.pascal v.text))) g.all
  | "camel_case" => none (.ok (Value.ofText (Text.camel v.text))) g.all
  | _ => .error .unknownFilter

end Filter

namespace Test

/-- A whole number for a test. -/
def integer (v : Value) (p : Int → Bool) : Except Fault Bool :=
  .ok (match v with | .int n => p n | _ => false)

/-- A test without arguments. -/
def plain (g : Given) (result : Except Fault Bool) : Except Fault Bool :=
  if g.all.isEmpty then result else .error .tooManyArguments

/-- A test with one argument. -/
def against (g : Given) (result : Value → Except Fault Bool) : Except Fault Bool :=
  match g.all with
  | [] => .error .missingArgument
  | [w] => result w
  | _ => .error .tooManyArguments

/-- Whether a test **holds**. -/
def holds (name : String) (v : Value) (g : Given) : Except Fault Bool :=
  match name with
  | "defined" => plain g (.ok (match v with | .undefined => false | _ => true))
  | "undefined" => plain g (.ok (match v with | .undefined => true | _ => false))
  | "none" => plain g (.ok (match v with | .none => true | _ => false))
  | "string" => plain g (.ok (match v with | .str _ _ => true | _ => false))
  | "number" => plain g (.ok (match v with | .int _ | .float _ => true | _ => false))
  | "integer" => plain g (.ok (match v with | .int _ => true | _ => false))
  | "float" => plain g (.ok (match v with | .float _ => true | _ => false))
  | "boolean" => plain g (.ok (match v with | .bool _ => true | _ => false))
  | "true" => plain g (.ok (match v with | .bool true => true | _ => false))
  | "false" => plain g (.ok (match v with | .bool false => true | _ => false))
  | "mapping" => plain g (.ok (match v with | .map _ | .loop .. => true | _ => false))
  | "sequence" => plain g (.ok (match v with | .list _ false => true | _ => false))
  | "iterable" => plain g (.ok (match v with | .str _ _ | .list _ _ | .map _ => true | _ => false))
  | "odd" => plain g (integer v fun n => n % 2 = 1)
  | "even" => plain g (integer v fun n => n % 2 = 0)
  | "eq" | "equalto" | "==" => against g fun w => .ok (Value.same v w)
  | "ne" | "!=" => against g fun w => .ok (!Value.same v w)
  | "lt" | "lessthan" | "<" => against g fun w => .ok (Value.compare v w == .lt)
  | "le" | "<=" => against g fun w => .ok (Value.compare v w != .gt)
  | "gt" | "greaterthan" | ">" => against g fun w => .ok (Value.compare v w == .gt)
  | "ge" | ">=" => against g fun w => .ok (Value.compare v w != .lt)
  | "in" => against g fun w => (Value.contains w v).map Value.truthy
  | _ => .error .unknownTest

end Test

end Scaffold.Template
