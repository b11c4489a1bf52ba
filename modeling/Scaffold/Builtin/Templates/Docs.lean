import Scaffold.Text.Split

/-!
# Builtin/Templates/Docs — the documentation

Templates as they stand before rendering, line by line.
-/

namespace Scaffold.Builtin

/-- The first page. -/
def docsIndex : String := Text.join "\n" [
  "# \x7b\x7b repo.name \x7d\x7d",
  "",
  "\x7b\x7b repo.description \x7d\x7d",
  "",
  "- [Usage](usage.md)",
  "- [Developing](developing/index.md)",
  ""]

/-- How the package is used. -/
def docsUsage : String := Text.join "\n" [
  "# Usage",
  "",
  "```python",
  "import \x7b\x7b repo.py_name \x7d\x7d",
  "```",
  ""]

/-- How the package is developed. -/
def docsDeveloping : String := Text.join "\n" [
  "# Developing",
  "",
  "Clone [the repository](\x7b\x7b repo.url \x7d\x7d) and branch from `\x7b\x7b git.default_branch \x7d\x7d`.",
  "",
  "```",
  "pip install -e .[dev]",
  "nox",
  "```",
  ""]

/-- The page on the license. -/
def docsLicense : String := Text.join "\n" [
  "# License",
  "",
  "\x7b% if license %\x7d\x7b\x7b repo.name \x7d\x7d is released under the \x7b\x7b license \x7d\x7d license.\x7b% else %\x7dNo license has been chosen for \x7b\x7b repo.name \x7d\x7d.\x7b% endif %\x7d",
  ""]

/-- How the pages are built. -/
def mkdocs : String := Text.join "\n" [
  "site_name: \x7b\x7b repo.name \x7d\x7d",
  "site_description: \x7b\x7b repo.description \x7d\x7d",
  "repo_url: \x7b\x7b repo.url \x7d\x7d",
  "docs_dir: source",
  "theme:",
  "  name: material",
  "nav:",
  "  - Home: index.md",
  "  - Usage: usage.md",
  "  - Developing:",
  "      - developing/index.md",
  "      - developing/license.md",
  ""]

end Scaffold.Builtin
