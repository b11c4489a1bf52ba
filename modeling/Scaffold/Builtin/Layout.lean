import Scaffold.License.File
import Scaffold.Builtin.Resources

/-!
# Builtin/Layout — the files of a package

Every layout has the same tools, tests, sources and documentation.  The sources stand in a folder named
by the path of the package; a service and a package of recipes put files of their own next to the ones
every package has.
-/

namespace Scaffold.Builtin

/-- A file that is rendered from a built-in template. -/
def templateFile (name module template : String) : Node :=
  .file none (.ofString name) (.resource ⟨module, template⟩)

/-- A folder. -/
def folder (name : String) (contents : List Node) : Node := .folder none (.ofString name) contents

/-- A file with a text. -/
def textFile (name text : String) : Node := .file none (.ofString name) (.text text)

/-- The test that a package starts with. -/
def placeholderTest : String :=
  "import \x7b\x7brepo.py_name\x7d\x7d\n\n\ndef test_placeholder():\n    pass\n"

/-- The files for tools. -/
def tooling : List Node := [
  templateFile ".gitignore" ingredients "gitignore.template",
  templateFile "noxfile.py" ingredients "noxfile.py.template",
  templateFile ".pre-commit-config.yaml" ingredients "pre-commit-config.yaml.template"]

/-- The files that describe a package, from the templates of a module. -/
def descriptions (module : String) : List Node := [
  templateFile "pyproject.toml" module "pyproject.toml.template",
  templateFile "README.md" module "readme.md.template"]

/-- The **tests**. -/
def tests : Node :=
  folder "tests" [
    folder "unit" [textFile "test_placeholder.py" placeholderTest],
    folder "functional" [textFile ".git-keep" ""]]

/-- The key of the folder with the sources. -/
def sourceKey : String := "src_path"

/-- The **sources**, with more files next to the one every package has. -/
def sources (more : List Node) : Node :=
  folder "src" [
    (folder "\x7b\x7brepo.src_path\x7d\x7d"
      (templateFile "__init__.py" ingredients "__init__.py.template" :: more)).withId sourceKey]

/-- The **documentation**. -/
def documentation : Node :=
  folder "docs" [
    folder "source" [
      templateFile "index.md" docsModule "index.md.template",
      templateFile "usage.md" docsModule "usage.md.template",
      folder "developing" [
        templateFile "index.md" docsModule "developing_index.md.template",
        templateFile "license.md" docsModule "license.md.template"]],
    templateFile "mkdocs.yml" docsModule "mkdocs.yml.template"]

/-- The sources of a service. -/
def serviceSources : List Node := [
  templateFile "app.py" apiModule "app.py.template",
  templateFile "auth.py" apiModule "auth.py.template",
  templateFile "server.py" apiModule "server.py.template",
  folder "api" [
    templateFile "__init__.py" apiModule "api.__init__.py.template",
    templateFile "base.py" apiModule "api.base.py.template"]]

/-- The files around the image of a service. -/
def imageFiles : List Node := [
  templateFile ".dockerignore" dockerModule "dockerignore.template",
  templateFile "Dockerfile" dockerModule "api.Dockerfile.template"]

/-- The sources of a package of recipes. -/
def recipeSources : List Node := [
  templateFile "recipe.py" recipeModuleName "recipe.py.template",
  templateFile "ingredient.py.template" recipeModuleName "ingredient.py.template.template"]

/-- The layout of a **package**. -/
def packageLayout : List Node :=
  tooling ++ descriptions ingredients ++ [tests, sources [], documentation, License.file]

/-- The layout of a **service**. -/
def serviceLayout : List Node :=
  tooling ++ descriptions apiModule ++ [tests, sources serviceSources] ++ imageFiles ++
    [documentation, License.file]

/-- The layout of a **package of recipes**. -/
def recipePackageLayout : List Node :=
  tooling ++ descriptions recipeModuleName ++
    [tests, sources recipeSources, documentation, License.file]

end Scaffold.Builtin
