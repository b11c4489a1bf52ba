import Scaffold.Yaml.Node
import Scaffold.Json.Basic

/-!
# Yaml/Value — what nodes mean

A plain text means nothing, a truth value, a number or itself (`Value.ofPlain?`); a text in any other
spelling means itself.  Digits behind a leading zero are no number.  The standard tags force a meaning,
and tags with a mark of their own stay with the value.  `Value.ofNode?` reads any value, `Json.ofNode?`
data alone: its keys are the texts as written, and a number that is not finite is null.
-/

namespace Scaffold.Yaml

/-- A **value** of a document. -/
inductive Value where
  | null
  | bool (b : Bool)
  | num (n : Number)
  | str (s : String)
  | seq (items : List Value)
  | map (pairs : List (Value × Value))
  | tagged (tag : String) (value : Value)
deriving Inhabited

namespace Value

/-! ## Plain texts -/

/-- Whether a text is one of the words for nothing. -/
def isNullWord (s : String) : Bool := s == "null" || s == "Null" || s == "NULL" || s == "~"

/-- The truth value a word stands for. -/
def boolWord? (s : String) : Option Bool :=
  if s == "true" || s == "True" || s == "TRUE" then some true
  else if s == "false" || s == "False" || s == "FALSE" then some false
  else none

/-- Drops a sign. -/
def unsigned : List Char → List Char
  | '+' :: cs => cs
  | '-' :: cs => cs
  | cs => cs

/-- Whether a text is digits behind a leading zero. -/
def isPaddedDigits (cs : List Char) : Bool :=
  match unsigned cs with
  | '0' :: c :: ds => (c :: ds).all Char.isDigit
  | _ => false

/-- The natural number that a text without sign writes, in base ten or behind the mark of a base. -/
def natural? (cs : List Char) : Option Nat :=
  match cs with
  | '0' :: 'x' :: ds => Literal.readNat? 16 ds
  | '0' :: 'o' :: ds => Literal.readNat? 8 ds
  | '0' :: 'b' :: ds => Literal.readNat? 2 ds
  | ds => if isPaddedDigits ds then none else Literal.readNat? 10 ds

/-- The **integer** a text writes. -/
def integer? (cs : List Char) : Option Int :=
  match cs with
  | '+' :: ds => (natural? ds).map fun n => (n : Int)
  | '-' :: ds => (natural? ds).map fun n => -(n : Int)
  | ds => (natural? ds).map fun n => (n : Int)

/-- Whether an integer has a type of 64 bits. -/
def fits64 (n : Int) : Bool := -Int.pow 2 63 ≤ n && n < Int.pow 2 64

/-- Whether an integer has a type of 128 bits. -/
def fits128 (n : Int) : Bool := -Int.pow 2 127 ≤ n && n < Int.pow 2 128

/-- Whether a text is one of the words for infinity. -/
def isInfinity (s : String) : Bool := s == ".inf" || s == ".Inf" || s == ".INF"

/-- Whether a text is one of the words for no number. -/
def isNan (s : String) : Bool := s == ".nan" || s == ".NaN" || s == ".NAN"

/-- The finite double a text writes. -/
def finite? (cs : List Char) : Option Float := (Literal.readFloat? cs).filter Float.isFinite

/-- The **double** a text writes. -/
def float? (s : String) : Option Float :=
  match s.toList with
  | '+' :: cs =>
    if cs.head? == some '+' || cs.head? == some '-' then none
    else if isInfinity (String.ofList cs) then some (1.0 / 0.0)
    else finite? cs
  | '-' :: cs => if isInfinity (String.ofList cs) then some (-1.0 / 0.0) else finite? ('-' :: cs)
  | cs =>
    if isInfinity s then some (1.0 / 0.0)
    else if isNan s then some (0.0 / 0.0)
    else finite? cs

/-- The number a text writes as an integer: refused between 64 and 128 bits, no integer beyond. -/
def number? (s : String) : Option (Option Number) :=
  match integer? s.toList with
  | some n => if fits64 n then some (some (.int n)) else if fits128 n then none else some none
  | none => some none

/-- The meaning of a **plain** text. -/
def ofPlain? (s : String) : Option Value :=
  if s.isEmpty || isNullWord s then some .null
  else
    match boolWord? s, number? s with
    | some b, _ => some (.bool b)
    | none, none => none
    | none, some (some n) => some (.num n)
    | none, some none =>
      if isPaddedDigits s.toList then some (.str s)
      else
        match float? s with
        | some x => some (.num (.float x))
        | none => some (.str s)

/-! ## Tags -/

/-- The standard tag of a name. -/
def standard (name : String) : String := "tag:yaml.org,2002:" ++ name

/-- The name of a tag with a mark of its own. -/
def ownTag? (tag : Option String) : Option String :=
  match tag.map String.toList with
  | some ('!' :: name) => some (String.ofList name)
  | _ => none

/-- The meaning a standard tag forces on a text. -/
def forced? (tag s : String) : Option Value :=
  if tag == standard "bool" then (boolWord? s).map .bool
  else if tag == standard "int" then (number? s).join.map .num
  else if tag == standard "float" then (float? s).map fun x => .num (.float x)
  else if tag == standard "null" then if isNullWord s then some .null else none
  else some (.str s)

/-- The meaning of a text without a tag of its own. -/
def ofText? (plain : Bool) (s : String) : Option Value := if plain then ofPlain? s else some (.str s)

/-- The meaning of a text with its tag. -/
def ofScalar? (tag : Option String) (plain : Bool) (s : String) : Option Value :=
  match ownTag? tag, tag with
  | some name, _ => if name.isEmpty then none else (ofText? plain s).map (.tagged name)
  | none, some tag => forced? tag s
  | none, none => ofText? plain s

/-- Puts a tag of its own before a value. -/
def withTag (tag : Option String) (v : Value) : Option Value :=
  match ownTag? tag with
  | some name => if name.isEmpty then none else some (.tagged name v)
  | none => some v

/-! ## Values -/

mutual

/-- Whether two values are the same. -/
def same : Value → Value → Bool
  | .null, .null => true
  | .bool a, .bool b => a == b
  | .num a, .num b => a = b
  | .str a, .str b => a == b
  | .seq xs, .seq ys => sameItems xs ys
  | .map xs, .map ys => samePairs xs ys
  | .tagged s a, .tagged t b => s == t && same a b
  | _, _ => false

/-- Whether the items of two lists are the same. -/
def sameItems : List Value → List Value → Bool
  | [], [] => true
  | a :: as, b :: bs => same a b && sameItems as bs
  | _, _ => false

/-- Whether the pairs of two mappings are the same. -/
def samePairs : List (Value × Value) → List (Value × Value) → Bool
  | [], [] => true
  | (k, v) :: ps, (l, w) :: qs => same k l && same v w && samePairs ps qs
  | _, _ => false

end

/-- Whether a key comes twice. -/
def repeats : List (Value × Value) → Bool
  | [] => false
  | (k, _) :: ps => ps.any (fun p => same k p.1) || repeats ps

mutual

/-- The **value** of a node; a mapping with a key that comes twice has none. -/
def ofNode? : Node → Option Value
  | .scalar tag plain s => ofScalar? tag plain s
  | .seq tag items =>
    match ofItems? items with
    | some vs => withTag tag (.seq vs)
    | none => none
  | .map tag pairs =>
    match ofPairs? pairs with
    | some ps => if repeats ps then none else withTag tag (.map ps)
    | none => none
  | .anchored _ n => ofNode? n
  | .alias _ => none

/-- The values of items. -/
def ofItems? : List Node → Option (List Value)
  | [] => some []
  | n :: ns =>
    match ofNode? n, ofItems? ns with
    | some v, some vs => some (v :: vs)
    | _, _ => none

/-- The values of pairs. -/
def ofPairs? : List (Node × Node) → Option (List (Value × Value))
  | [] => some []
  | (k, v) :: ps =>
    match ofNode? k, ofNode? v, ofPairs? ps with
    | some k, some v, some ps => some ((k, v) :: ps)
    | _, _, _ => none

end

mutual

/-- A value from data. -/
def ofJson : Json → Value
  | .null => .null
  | .bool b => .bool b
  | .num n => .num n
  | .str s => .str s
  | .arr items => .seq (ofJsonItems items)
  | .obj fields => .map (ofJsonFields fields)

/-- Values from data items. -/
def ofJsonItems : List Json → List Value
  | [] => []
  | v :: vs => ofJson v :: ofJsonItems vs

/-- Pairs from data fields. -/
def ofJsonFields : List (String × Json) → List (Value × Value)
  | [] => []
  | (k, v) :: fs => (.str k, ofJson v) :: ofJsonFields fs

end

/-- A mapping with texts as keys. -/
def record (fields : List (String × Value)) : Value := .map (fields.map fun f => (.str f.1, f.2))

end Value

end Scaffold.Yaml

namespace Scaffold

/-- Data from a value without items. -/
def Json.ofYamlScalar? : Yaml.Value → Option Json
  | .null => some .null
  | .bool b => some (.bool b)
  | .num (.float x) => some (if x.isFinite then .num (.float x) else .null)
  | .num n => some (.num n)
  | .str s => some (.str s)
  | _ => none

mutual

/-- **Data** from a node; a tag of its own is refused. -/
def Json.ofYaml? : Yaml.Node → Option Json
  | .scalar tag plain s => (Yaml.Value.ofScalar? tag plain s).bind ofYamlScalar?
  | .seq tag items =>
    if (Yaml.Value.ownTag? tag).isSome then none
    else (Json.ofYamlItems? items).map .arr
  | .map tag pairs =>
    if (Yaml.Value.ownTag? tag).isSome then none
    else (Json.ofYamlPairs? pairs).map fun ps => .obj (Fields.ofPairs ps)
  | .anchored _ n => Json.ofYaml? n
  | .alias _ => none

/-- Data from items. -/
def Json.ofYamlItems? : List Yaml.Node → Option (List Json)
  | [] => some []
  | n :: ns =>
    match Json.ofYaml? n, Json.ofYamlItems? ns with
    | some v, some vs => some (v :: vs)
    | _, _ => none

/-- Data from pairs; keys are texts. -/
def Json.ofYamlPairs? : List (Yaml.Node × Yaml.Node) → Option (List (String × Json))
  | [] => some []
  | (.scalar _ _ k, v) :: ps =>
    match Json.ofYaml? v, Json.ofYamlPairs? ps with
    | some v, some ps => some ((k, v) :: ps)
    | _, _ => none
  | _ :: _ => none

end

end Scaffold
