import Scaffold.Recipe.Basic
import Scaffold.Parameter.Basic
import Scaffold.Registry

/-!
# Recipe/Definition — recipes by name

A `RecipeDefinition` builds recipes from arguments and says which arguments it takes.  Definitions are
registered under `recipeGroup`; `Recipe.load` builds the recipe of a name, `Recipe.inspect` shows its
parameters.
-/

namespace Scaffold

/-- The group of a registry that holds recipes. -/
def recipeGroup : String := "kiln.recipes"

/-- A **definition** of recipes. -/
structure RecipeDefinition where
  /-- The parameters it declares. -/
  declared : List Parameter
  /-- Builds the recipe of a name from the arguments that are left. -/
  build : String → Fields → Except Error Recipe

namespace RecipeDefinition

/-- The parameters that every folder and every recipe has. -/
def common : List Parameter := [
  .plain "id" "Option<String>" .folder (some .null),
  .plain "contents" "Vec<Node>" .folder (some (.str "<recipe contents>")),
  .plain "name" "String" .recipe none,
  .plain "version" "Option<String>" .recipe (some .null),
  .plain "pre_hooks" "Vec<Hook>" .recipe (some (.arr [])),
  .plain "post_hooks" "Vec<Hook>" .recipe (some (.arr []))]

/-- The **parameters** of a definition. -/
def parameters (c : RecipeDefinition) : List Parameter := common ++ c.declared

/-- The name among arguments. -/
def nameOf (given : Fields) : Except ArgumentFault String :=
  match Fields.get? given "name" with
  | some (.str name) => .ok name
  | some v => .error (.nameNotText v)
  | none => .error .nameMissing

/-- The version among arguments. -/
def versionOf (given : Fields) : Except ArgumentFault (Option String) :=
  match Fields.get? given "version" with
  | some (.str version) => .ok (some version)
  | some .null => .ok none
  | none => .ok none
  | some v => .error (.versionNotText v)

/-- The recipe that **arguments** describe. -/
def recipeOf (c : RecipeDefinition) (given : Fields) : Except Error Recipe :=
  match nameOf given, versionOf given with
  | .error fault, _ => .error (.arguments fault)
  | _, .error fault => .error (.arguments fault)
  | .ok name, .ok version =>
    (c.build name (Fields.erase (Fields.erase given "name") "version")).map fun r =>
      { r with version := version.orElse fun _ => r.version }

end RecipeDefinition

namespace Recipe

/-- The definition of a name, and what was warned about. -/
def lookup (registry : Registry RecipeDefinition) (name : String) :
    Except Error RecipeDefinition × List String :=
  match registry.load recipeGroup name with
  | (some c, warnings) => (.ok c, warnings)
  | (none, warnings) => (.error (.recipeNotFound name (registry.names recipeGroup)), warnings)

/-- **Builds** the recipe of a name from arguments. -/
def load (registry : Registry RecipeDefinition) (name : String) (given : Fields) :
    Except Error Recipe × List String :=
  match lookup registry name with
  | (.error e, warnings) => (.error e, warnings)
  | (.ok c, warnings) =>
    ((c.recipeOf given).map fun r => { r with extensionName := name }, warnings)

/-- Which parameters are **shown**. -/
structure Inspection where
  includePrivate : Bool
  includeFolder : Bool
  includeBase : Bool

/-- Whether a parameter is shown. -/
def Inspection.shows (i : Inspection) (p : Parameter) : Bool :=
  (i.includePrivate || !p.isPrivate) && (i.includeFolder || p.origin ≠ .folder) &&
    (i.includeBase || p.origin ≠ .recipe)

/-- The **parameters** of the recipe of a name. -/
def inspect (registry : Registry RecipeDefinition) (name : String) (i : Inspection) :
    Except Error (List Parameter) × List String :=
  match lookup registry name with
  | (.error e, warnings) => (.error e, warnings)
  | (.ok c, warnings) => (.ok ((c.parameters.filter i.shows).map Parameter.expanded), warnings)

end Recipe

end Scaffold
