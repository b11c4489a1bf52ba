import Scaffold.Json.Basic
import Scaffold.Yaml.Value

/-!
# Parameter/Basic — what a recipe asks for

A `Parameter` says what an argument is called, what it holds and what stands in for it.  The argument of
a record parameter has parameters of its own; `Parameter.expanded` puts them in the place of what stands
in for the record, one level deep.
-/

namespace Scaffold

/-- Where a parameter **comes from**. -/
inductive Origin where
  /-- Every folder has it. -/
  | folder
  /-- Every recipe has it. -/
  | recipe
  /-- The recipe declares it. -/
  | declared
deriving DecidableEq, Inhabited, Repr

/-- The word for an origin. -/
def Origin.name : Origin → String
  | .folder => "folder"
  | .recipe => "recipe"
  | .declared => "declared"

/-- A **parameter**. -/
inductive Parameter where
  | plain (name annotation : String) (origin : Origin) (fallback : Option Json)
  /-- The argument is a record; its parameters are still hidden. -/
  | record (name annotation : String) (origin : Origin) (fallback : Option Json)
      (fields : List Parameter)
  /-- The argument is a record, described by its parameters. -/
  | signature (name annotation : String) (origin : Origin) (fields : List Parameter)
deriving Inhabited

namespace Parameter

/-- A parameter that a recipe declares and that has to be given. -/
def required (name annotation : String) : Parameter := .plain name annotation .declared none

/-- A parameter that a recipe declares and that may be left out. -/
def optional (name annotation : String) (fallback : Json) : Parameter :=
  .plain name annotation .declared (some fallback)

/-- The name of the argument. -/
def name : Parameter → String
  | .plain name _ _ _ => name
  | .record name _ _ _ _ => name
  | .signature name _ _ _ => name

/-- What the argument holds. -/
def annotation : Parameter → String
  | .plain _ annotation _ _ => annotation
  | .record _ annotation _ _ _ => annotation
  | .signature _ annotation _ _ => annotation

/-- Where the parameter comes from. -/
def origin : Parameter → Origin
  | .plain _ _ origin _ => origin
  | .record _ _ origin _ _ => origin
  | .signature _ _ origin _ => origin

/-- Whether the argument is none of the public ones. -/
def isPrivate (p : Parameter) : Bool := p.name.toList.head? == some '_'

/-- Shows the parameters of a record, one level deep. -/
def expanded : Parameter → Parameter
  | .record name annotation origin _ fields => .signature name annotation origin fields
  | p => p

/-! ## As data -/

/-- What stands in for an argument, or the word for one that has to be given. -/
def fallbackJson : Option Json → Json
  | none => .str "required"
  | some v => Json.object [("value", v)]

/-- The object that shows a parameter. -/
def objectOf (name annotation : String) (shown : Json) (origin : Origin) : Json :=
  Json.object [("name", .str name), ("annotation", .str annotation), ("default", shown),
    ("origin", .str origin.name)]

mutual

/-- The data that **shows** a parameter. -/
def toJson : Parameter → Json
  | .plain name annotation origin fallback =>
    objectOf name annotation (fallbackJson fallback) origin
  | .record name annotation origin fallback _ =>
    objectOf name annotation (fallbackJson fallback) origin
  | .signature name annotation origin fields =>
    objectOf name annotation (Json.object [("signature", .arr (toJsons fields))]) origin

/-- The data that shows parameters. -/
def toJsons : List Parameter → List Json
  | [] => []
  | p :: ps => toJson p :: toJsons ps

end

/-! ## As a document -/

/-- A value under a tag, or the word for a value that has to be given. -/
def defaultValue : Option Json → Yaml.Value
  | none => .str "required"
  | some v => .tagged "value" (.ofJson v)

/-- The mapping that shows a parameter. -/
def mapping (name annotation : String) (shown : Yaml.Value) (origin : Origin) : Yaml.Value :=
  .record [("name", .str name), ("annotation", .str annotation), ("default", shown),
    ("origin", .str origin.name)]

mutual

/-- The value that **shows** a parameter. -/
def toValue : Parameter → Yaml.Value
  | .plain name annotation origin fallback =>
    mapping name annotation (defaultValue fallback) origin
  | .record name annotation origin fallback _ =>
    mapping name annotation (defaultValue fallback) origin
  | .signature name annotation origin fields =>
    mapping name annotation (.tagged "signature" (.seq (toValues fields))) origin

/-- The values that show parameters. -/
def toValues : List Parameter → List Yaml.Value
  | [] => []
  | p :: ps => toValue p :: toValues ps

end

end Parameter

end Scaffold
