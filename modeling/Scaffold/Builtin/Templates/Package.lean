import Scaffold.Text.Split

/-!
# Builtin/Templates/Package — the files every package has

Templates as they stand before rendering, line by line.
-/

namespace Scaffold.Builtin

/-- What version control passes over. -/
def gitignore : String := Text.join "\n" [
  "# Byte-compiled / optimized files",
  "__pycache__/",
  "*.py[cod]",
  "",
  "# Distribution / packaging",
  "build/",
  "dist/",
  "*.egg-info/",
  ".eggs/",
  "",
  "# Test and coverage reports",
  ".nox/",
  ".pytest_cache/",
  ".coverage",
  "reports/",
  "",
  "# Environments",
  ".env",
  ".venv/",
  "venv/",
  "",
  "# Documentation builds",
  "site/",
  "docs/build/",
  ""]

/-- The sessions of the test runner. -/
def noxfile : String := Text.join "\n" [
  "\"\"\"Nox sessions for \x7b\x7b repo.name \x7d\x7d.\"\"\"",
  "import nox",
  "",
  "nox.options.sessions = [\"lint\", \"test\"]",
  "",
  "",
  "@nox.session",
  "def lint(session):",
  "    \"\"\"Run the linters.\"\"\"",
  "    session.install(\"pre-commit\")",
  "    session.run(\"pre-commit\", \"run\", \"--all-files\")",
  "",
  "",
  "@nox.session",
  "def test(session):",
  "    \"\"\"Run the unit and functional tests.\"\"\"",
  "    session.install(\".[dev]\")",
  "    session.run(\"pytest\", \"tests\", \"--cov=\x7b\x7b repo.py_name \x7d\x7d\")",
  "",
  "",
  "@nox.session",
  "def docs(session):",
  "    \"\"\"Build the documentation.\"\"\"",
  "    session.install(\".[docs]\")",
  "    session.run(\"mkdocs\", \"build\", \"-f\", \"docs/mkdocs.yml\")",
  ""]

/-- The checks that run before a commit. -/
def preCommitConfig : String := Text.join "\n" [
  "repos:",
  "  - repo: https://github.com/pre-commit/pre-commit-hooks",
  "    rev: v4.5.0",
  "    hooks:",
  "      - id: check-yaml",
  "      - id: check-toml",
  "      - id: end-of-file-fixer",
  "      - id: trailing-whitespace",
  "  - repo: https://github.com/astral-sh/ruff-pre-commit",
  "    rev: v0.4.4",
  "    hooks:",
  "      - id: ruff",
  "        args: [--fix]",
  "      - id: ruff-format",
  ""]

/-- The description of the package. -/
def pyproject : String := Text.join "\n" [
  "[build-system]",
  "requires = [\"setuptools>=64\", \"setuptools_scm[toml]>=8\"]",
  "build-backend = \"setuptools.build_meta\"",
  "",
  "[project]",
  "name = \"\x7b\x7b repo.name \x7d\x7d\"",
  "description = \"\x7b\x7b repo.description \x7d\x7d\"",
  "readme = \"README.md\"",
  "requires-python = \">=3.9\"",
  "authors = [",
  "    \x7b name = \"\x7b\x7b repo.owner \x7d\x7d\", email = \"\x7b\x7b repo.email \x7d\x7d\" \x7d,",
  "]",
  "dynamic = [\"version\"]",
  "\x7b%- if license %\x7d",
  "license = \x7b text = \"\x7b\x7b license \x7d\x7d\" \x7d",
  "\x7b%- endif %\x7d",
  "dependencies = [\x7b% block dependencies %\x7d\x7b% endblock %\x7d]",
  "",
  "[project.optional-dependencies]",
  "dev = [",
  "    \"pytest\",",
  "    \"pytest-cov\",\x7b% block dev_dependencies %\x7d\x7b% endblock %\x7d",
  "]",
  "docs = [",
  "    \"mkdocs\",",
  "    \"mkdocs-material\",",
  "]",
  "",
  "[project.urls]",
  "Repository = \"\x7b\x7b repo.url \x7d\x7d\"",
  "\x7b% block scripts %\x7d\x7b% endblock %\x7d",
  "[tool.setuptools.packages.find]",
  "where = [\"src\"]",
  "",
  "[tool.setuptools_scm]",
  "",
  "[tool.pytest.ini_options]",
  "testpaths = [\"tests\"]",
  ""]

/-- The introduction. -/
def readme : String := Text.join "\n" [
  "# \x7b\x7b repo.name \x7d\x7d",
  "",
  "\x7b\x7b repo.description \x7d\x7d",
  "",
  "\x7b% block usage %\x7d## Installation",
  "",
  "```",
  "pip install \x7b\x7b repo.name \x7d\x7d",
  "```",
  "",
  "## Usage",
  "",
  "```python",
  "import \x7b\x7b repo.py_name \x7d\x7d",
  "```",
  "\x7b% endblock %\x7d",
  "## Development",
  "",
  "Branches are created from `\x7b\x7b git.default_branch \x7d\x7d`. Run the checks with:",
  "",
  "```",
  "nox",
  "```",
  "",
  "Maintained by \x7b\x7b repo.owner \x7d\x7d (\x7b\x7b repo.email \x7d\x7d).",
  ""]

/-- The start of the package. -/
def packageInit : String := Text.join "\n" [
  "\"\"\"\x7b\x7b repo.name \x7d\x7d: \x7b\x7b repo.description \x7d\x7d\"\"\"",
  "from importlib.metadata import PackageNotFoundError, version",
  "",
  "try:",
  "    __version__ = version(\"\x7b\x7b repo.name \x7d\x7d\")",
  "except PackageNotFoundError:",
  "    __version__ = \"0.0.0\"",
  ""]

end Scaffold.Builtin
