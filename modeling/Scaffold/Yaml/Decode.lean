import Scaffold.Yaml.Value

/-!
# Yaml/Decode — what a reader expects of a node

A text may be spelled in any way and is never taken for a number.  Where a list or a mapping is expected,
nothing at all stands for the empty one.  The fields of a record come by name, each at most once.
-/

namespace Scaffold.Yaml.Node

/-- A **text**, whatever else it could mean. -/
def text? : Node → Option String
  | .scalar _ _ s => some s
  | _ => none

/-- Whether nothing is written. -/
def isBlank : Node → Bool
  | .scalar _ plain s => plain && s.isEmpty
  | _ => false

/-- The items of a **list**. -/
def items? : Node → Option (List Node)
  | .seq _ items => some items
  | n => if n.isBlank then some [] else none

/-- The pairs of a **mapping**. -/
def pairs? : Node → Option (List (Node × Node))
  | .map _ pairs => some pairs
  | n => if n.isBlank then some [] else none

/-- A list of texts. -/
def texts? (n : Node) : Option (List String) := n.items?.bind fun ns => ns.mapM text?

/-- The pairs of a mapping whose keys are texts. -/
def members? (n : Node) : Option (List (String × Node)) :=
  n.pairs?.bind fun ps => ps.mapM fun p => p.1.text?.map fun k => (k, p.2)

/-- Whether a text means nothing, on account of its tag and spelling. -/
def isNull (tag : Option String) (plain : Bool) (s : String) : Bool :=
  match tag with
  | some t => plain && t == Value.standard "null" && Value.isNullWord s
  | none => plain && (s.isEmpty || Value.isNullWord s)

/-- A value that may be **nothing**. -/
def optional? {α : Type} (read : Node → Option α) : Node → Option (Option α)
  | .scalar tag plain s =>
    if isNull tag plain s then some none
    else if plain && tag == some (Value.standard "null") then none
    else (read (.scalar tag plain s)).map some
  | n => (read n).map some

/-- A **word** out of several, or its tag with nothing behind. -/
def variant? {α : Type} (known : List (String × α)) : Node → Option α
  | .scalar tag plain s =>
    match Value.ownTag? tag with
    | some name => if isNull none plain s then known.lookup name else none
    | none => known.lookup s
  | _ => none

/-- The **field** of a record under a name: refused where it comes twice. -/
def field? (members : List (String × Node)) (key : String) : Option (Option Node) :=
  match members.filter fun m => m.1 == key with
  | [] => some none
  | [m] => some (some m.2)
  | _ => none

/-- A field, or what stands in for it. -/
def fieldOr? {α : Type} (members : List (String × Node)) (key : String) (read : Node → Option α)
    (otherwise : α) : Option α :=
  match field? members key with
  | none => none
  | some none => some otherwise
  | some (some n) => read n

end Scaffold.Yaml.Node

namespace Scaffold.Yaml

/-- Reads a text that holds a list of values. -/
def Value.readList? (text : String) : Option (List Value) :=
  ((Node.readText? text).bind Node.items?).bind Value.ofItems?

end Scaffold.Yaml
