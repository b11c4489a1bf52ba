import Scaffold.Hook.Basic
import Scaffold.Node.Operations
import Scaffold.Yaml.Value

/-!
# Recipe/Basic — what a layout is created from

A `Recipe` is a folder with declared fields, hooks and an identity.  Its context holds the declared
fields, except those that say how the recipe is built, and under `recipe` what the recipe says of itself.
Nothing here touches the disk: `Recipe.dryrun` renders what would be written, `Recipe.validate` compares
it with what is there.
-/

namespace Scaffold

/-- What a recipe **says of itself**. -/
structure RecipeInfo where
  /-- The identity of what declares the fields. -/
  name : String
  version : Option String
  extensionName : String
deriving DecidableEq, Repr

namespace RecipeInfo

/-- The information as data. -/
def toJson (i : RecipeInfo) : Json :=
  Json.object [("name", .str i.name), ("version", Json.ofOption i.version),
    ("extension_name", .str i.extensionName)]

/-- The information as a value of a document. -/
def toValue (i : RecipeInfo) : Yaml.Value :=
  .record [("name", .str i.name), ("version", (i.version.map Yaml.Value.str).getD .null),
    ("extension_name", .str i.extensionName)]

end RecipeInfo

/-- A **recipe**. -/
structure Recipe where
  root : Folder
  name : String
  version : Option String
  preHooks : List Hook
  postHooks : List Hook
  extensionName : String
  /-- The module and the name of what declares the fields. -/
  identity : String
  declared : Json
  renderer : Renderer

namespace Recipe

/-- The part of an identity behind its last colon. -/
def shortName (identity : String) : String :=
  ((Text.split ':' identity).getLast?).getD identity

/-- The recipe with some contents, declared fields and identity. -/
def of (identity : String) (declared : Json) (renderer : Renderer) (name : String)
    (contents : List Node) : Except Error Recipe :=
  (Folder.of (.literal name) contents).map fun root =>
    ⟨root, name, none, [], [], shortName identity, identity, declared, renderer⟩

/-- The identity of recipes that declare no fields. -/
def plainIdentity : String := "kiln::mixer::recipe:Recipe"

/-- The recipe that declares **no fields**. -/
def plain (renderer : Renderer) (name : String) (contents : List Node) : Except Error Recipe :=
  of plainIdentity (.obj []) renderer name contents

/-- What the recipe says of itself. -/
def info (r : Recipe) : RecipeInfo := ⟨r.identity, r.version, r.extensionName⟩

/-! ## The context -/

/-- The fields that say how a recipe is built; no context takes them from what is declared. -/
def structural : List String :=
  ["contents", "id", "name", "pre_hooks", "post_hooks", "version", "extension_name", "recipe"]

/-- Declared data as fields: nothing counts as no fields. -/
def fieldsOf : Json → Except Error Fields
  | .obj fs => .ok fs
  | .null => .ok []
  | v => .error (.notFields v)

/-- The **context** of a recipe. -/
def context (r : Recipe) : Except Error Context :=
  (fieldsOf r.declared).map fun fs =>
    Fields.insert (fs.filter fun f => !structural.contains f.1) "recipe" r.info.toJson

/-- The context with more laid over it. -/
def combined (r : Recipe) (extra : Context) : Except Error Context :=
  r.context.map fun ctx => Fields.merge ctx extra

/-! ## Looking at what would be created -/

/-- The base, which is the working directory unless it is given. -/
def baseOf (d : Disk) (base : Option Path) : Path := base.getD d.workPath

/-- **Renders** what the recipe writes. -/
def dryrun (r : Recipe) (d : Disk) (base override : Option Path) (extra : Context) :
    Except Error Tree :=
  match r.combined extra with
  | .error e => .error e
  | .ok ctx => r.root.toNode.preview r.renderer d ctx override (baseOf d base)

/-- **Compares** what the recipe writes with what is on the disk. -/
def validate (r : Recipe) (d : Disk) (base override : Option Path) (extra : Context) :
    Except Error Report :=
  match r.combined extra with
  | .error e => .error e
  | .ok ctx => r.root.toNode.verify r.renderer d ctx override (baseOf d base)

/-- The path the recipe is created at. -/
def pathIn (r : Recipe) (d : Disk) (base override : Option Path) (ctx : Context) :
    Except Error Path :=
  match Node.path r.renderer d ctx override (baseOf d base) r.root.name with
  | .error e => .error e
  | .ok none => .error (.check (.noPath r.name))
  | .ok (some p) => .ok p

end Recipe

end Scaffold
