import Scaffold.Text.Split

/-!
# Builtin/Templates/RecipePackage — the files of a package of recipes

Templates as they stand before rendering, line by line.
-/

namespace Scaffold.Builtin

/-- The description of the package. -/
def recipePyproject : String := Text.join "\n" [
  "\x7b% extends 'kiln.recipes.python.ingredients:pyproject.toml.template' %\x7d",
  "\x7b% block dependencies %\x7d",
  "    \"jinja2\",",
  "\x7b% endblock %\x7d",
  "\x7b% block scripts %\x7d",
  "[project.scripts]",
  "\x7b\x7b repo.name \x7d\x7d = \"\x7b\x7b repo.py_name \x7d\x7d.recipe:main\"",
  "\x7b% endblock %\x7d",
  ""]

/-- The introduction. -/
def recipeReadme : String := Text.join "\n" [
  "\x7b% extends 'kiln.recipes.python.ingredients:readme.md.template' %\x7d",
  "\x7b% block usage %\x7d## Writing the recipe",
  "",
  "Ingredients are jinja templates stored next to `recipe.py`. Add one, then list",
  "it in `CONTENTS` with the path it is rendered to.",
  "",
  "## Running the recipe",
  "",
  "```",
  "pip install .",
  "\x7b\x7b repo.name \x7d\x7d ./output --context '\x7b\"name\": \"example\"\x7d'",
  "```",
  "\x7b% endblock %\x7d",
  ""]

/-- The recipe. -/
def recipeModule : String := Text.join "\n" [
  "\"\"\"\x7b\x7b repo.name \x7d\x7d recipe: renders its ingredients into a new directory.\"\"\"",
  "import argparse",
  "import json",
  "from pathlib import Path",
  "",
  "from jinja2 import Environment, FileSystemLoader, StrictUndefined",
  "",
  "INGREDIENTS = Path(__file__).parent",
  "",
  "# output path -> ingredient template",
  "CONTENTS = \x7b",
  "    \"main.py\": \"ingredient.py.template\",",
  "\x7d",
  "",
  "",
  "def create(output_dir: Path, context: dict) -> list:",
  "    \"\"\"Render every ingredient under output_dir and return the written paths.\"\"\"",
  "    env = Environment(",
  "        loader=FileSystemLoader(str(INGREDIENTS)),",
  "        keep_trailing_newline=True,",
  "        undefined=StrictUndefined,",
  "    )",
  "    written = []",
  "    for name, template in CONTENTS.items():",
  "        path = output_dir / env.from_string(name).render(**context)",
  "        path.parent.mkdir(parents=True, exist_ok=True)",
  "        path.write_text(env.get_template(template).render(**context))",
  "        written.append(path)",
  "    return written",
  "",
  "",
  "def main() -> None:",
  "    parser = argparse.ArgumentParser(description=\"\x7b\x7b repo.description \x7d\x7d\")",
  "    parser.add_argument(\"output_dir\", type=Path)",
  "    parser.add_argument(\"--context\", type=json.loads, default=\x7b\x7d)",
  "    args = parser.parse_args()",
  "    for path in create(args.output_dir, args.context):",
  "        print(f\"Created: \x7bpath\x7d\")",
  ""]

/-- A first ingredient. -/
def sampleIngredient : String := Text.join "\n" [
  "\x7b% raw %\x7d\"\"\"\x7b\x7b name \x7d\x7d: created from a recipe.\"\"\"",
  "",
  "",
  "def main() -> None:",
  "    print(\"Hello from \x7b\x7b name \x7d\x7d\")",
  "",
  "",
  "if __name__ == \"__main__\":",
  "    main()",
  "\x7b% endraw %\x7d",
  ""]

end Scaffold.Builtin
