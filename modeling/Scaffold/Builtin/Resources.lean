import Scaffold.Resource.Source
import Scaffold.Renderer
import Scaffold.Builtin.Templates.Package
import Scaffold.Builtin.Templates.Api
import Scaffold.Builtin.Templates.Docs
import Scaffold.Builtin.Templates.RecipePackage

/-!
# Builtin/Resources — the built-in templates by module

Every template of the built-in layouts can be included, extended and overridden under its reference.
-/

namespace Scaffold.Builtin

/-- The module of the files every package has. -/
def ingredients : String := "kiln.recipes.python.ingredients"

/-- The module of the files of a service. -/
def apiModule : String := ingredients ++ ".api"

/-- The module of the files around the image of a service. -/
def dockerModule : String := apiModule ++ ".docker"

/-- The module of the documentation. -/
def docsModule : String := ingredients ++ ".docs"

/-- The module of the files of a package of recipes. -/
def recipeModuleName : String := ingredients ++ ".recipe"

/-- The built-in templates by **module** and file name. -/
def modules : List (String × List (String × String)) := [
  (ingredients, [
    ("gitignore.template", gitignore),
    ("noxfile.py.template", noxfile),
    ("pre-commit-config.yaml.template", preCommitConfig),
    ("pyproject.toml.template", pyproject),
    ("readme.md.template", readme),
    ("__init__.py.template", packageInit)]),
  (apiModule, [
    ("pyproject.toml.template", apiPyproject),
    ("readme.md.template", apiReadme),
    ("app.py.template", app),
    ("auth.py.template", auth),
    ("server.py.template", server),
    ("api.__init__.py.template", apiInit),
    ("api.base.py.template", apiBase)]),
  (dockerModule, [
    ("api.Dockerfile.template", dockerfile),
    ("dockerignore.template", dockerignore)]),
  (docsModule, [
    ("index.md.template", docsIndex),
    ("usage.md.template", docsUsage),
    ("developing_index.md.template", docsDeveloping),
    ("license.md.template", docsLicense),
    ("mkdocs.yml.template", mkdocs)]),
  (recipeModuleName, [
    ("pyproject.toml.template", recipePyproject),
    ("readme.md.template", recipeReadme),
    ("recipe.py.template", recipeModule),
    ("ingredient.py.template.template", sampleIngredient)])]

end Scaffold.Builtin

namespace Scaffold

/-- The source of the **built-in** templates. -/
def ResourceSource.builtin : ResourceSource := .embedded Builtin.modules

/-- The renderer that knows the built-in templates alone. -/
def Renderer.builtin : Renderer := ⟨[.builtin]⟩

end Scaffold
