import Scaffold.Builtin.Layout
import Scaffold.Builtin.Metadata
import Scaffold.Recipe.Definition
import Scaffold.Recipe.Record
import Scaffold.Hook.Git
import Scaffold.Hook.Command

/-!
# Builtin/Recipes — the built-in recipes

Three recipes share their settings and differ in their layout.  Each creates a repository once the files
are written, and lets `pre-commit` install its hooks.
-/

namespace Scaffold.Builtin

/-- A built-in **kind** of recipe. -/
inductive Kind where
  | package
  | service
  | recipePackage
deriving DecidableEq, Repr

namespace Kind

/-- The name a kind is registered under. -/
def name : Kind → String
  | .package => "python_package"
  | .service => "python_api"
  | .recipePackage => "recipe"

/-- The identity of its recipes. -/
def identity : Kind → String
  | .package => "kiln::recipes::python:PackageRecipe"
  | .service => "kiln::recipes::python:ApiRecipe"
  | .recipePackage => "kiln::recipes::python:RecipeRecipe"

/-- The layout of its recipes. -/
def layout : Kind → List Node
  | .package => packageLayout
  | .service => serviceLayout
  | .recipePackage => recipePackageLayout

/-- The recipe with some settings, once they are **checked**. -/
def recipe (k : Kind) (name : String) (s : Settings) : Except Error Recipe :=
  let s := s.withName name
  match s.repository.check with
  | .error fault => .error (.arguments (.repository fault))
  | .ok () =>
    (Recipe.of k.identity s.dump .builtin name k.layout).map fun r =>
      { r with
        version := some toolVersion
        postHooks := [Hook.gitInit, Hook.precommitInstall] }

/-- The **definition** of a kind; a license is as old as the year says. -/
def definition (year : Int) (k : Kind) : RecipeDefinition where
  declared := Settings.parameters year
  build name given :=
    match Settings.decode year (.obj given) with
    | .error fault => .error (.arguments (.field fault))
    | .ok s => k.recipe name s

end Kind

end Scaffold.Builtin

namespace Scaffold

/-- The registry of the **built-in** recipes. -/
def RecipeDefinition.builtin (year : Int) : Registry RecipeDefinition :=
  [Builtin.Kind.package, .service, .recipePackage].foldl
    (fun r k => r.register recipeGroup k.name (k.definition year)) .empty

end Scaffold
