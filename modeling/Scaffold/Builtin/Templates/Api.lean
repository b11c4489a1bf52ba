import Scaffold.Text.Split

/-!
# Builtin/Templates/Api — the files of a service

Templates as they stand before rendering, line by line.
-/

namespace Scaffold.Builtin

/-- The description of the service. -/
def apiPyproject : String := Text.join "\n" [
  "\x7b% extends 'kiln.recipes.python.ingredients:pyproject.toml.template' %\x7d",
  "\x7b% block dependencies %\x7d",
  "    \"fastapi\",",
  "    \"pydantic-settings\",",
  "    \"uvicorn\",",
  "\x7b% endblock %\x7d",
  "\x7b% block dev_dependencies %\x7d",
  "    \"httpx\",\x7b% endblock %\x7d",
  "\x7b% block scripts %\x7d",
  "[project.scripts]",
  "\x7b\x7b repo.name \x7d\x7d = \"\x7b\x7b repo.py_name \x7d\x7d.server:run\"",
  "\x7b% endblock %\x7d",
  ""]

/-- The introduction to the service. -/
def apiReadme : String := Text.join "\n" [
  "\x7b% extends 'kiln.recipes.python.ingredients:readme.md.template' %\x7d",
  "\x7b% block usage %\x7d## Running the service",
  "",
  "```",
  "pip install .",
  "\x7b\x7b repo.name \x7d\x7d",
  "```",
  "",
  "The API is served on port 8000, with interactive docs at `/docs`.",
  "",
  "## Docker",
  "",
  "```",
  "docker build -t \x7b\x7b repo.name \x7d\x7d .",
  "docker run -p 8000:8000 \x7b\x7b repo.name \x7d\x7d",
  "```",
  "\x7b% endblock %\x7d",
  ""]

/-- The application. -/
def app : String := Text.join "\n" [
  "\"\"\"FastAPI application for \x7b\x7b repo.name \x7d\x7d.\"\"\"",
  "from fastapi import FastAPI",
  "",
  "from \x7b\x7b repo.py_name \x7d\x7d import __version__",
  "from \x7b\x7b repo.py_name \x7d\x7d.api import router",
  "",
  "app = FastAPI(title=\"\x7b\x7b repo.name \x7d\x7d\", description=\"\x7b\x7b repo.description \x7d\x7d\", version=__version__)",
  "app.include_router(router)",
  ""]

/-- How requests are authorised. -/
def auth : String := Text.join "\n" [
  "\"\"\"Authentication dependencies for \x7b\x7b repo.name \x7d\x7d.\"\"\"",
  "from fastapi import Header, HTTPException, status",
  "from pydantic_settings import BaseSettings",
  "",
  "",
  "class AuthSettings(BaseSettings):",
  "    \"\"\"API key settings, read from the environment.\"\"\"",
  "",
  "    api_key: str = \"\"",
  "",
  "",
  "def require_api_key(x_api_key: str = Header(default=\"\")):",
  "    \"\"\"Reject requests without the configured API key.\"\"\"",
  "    settings = AuthSettings()",
  "    if settings.api_key and x_api_key != settings.api_key:",
  "        raise HTTPException(status_code=status.HTTP_401_UNAUTHORIZED, detail=\"Invalid API key\")",
  ""]

/-- How the service is started. -/
def server : String := Text.join "\n" [
  "\"\"\"Server entrypoint for \x7b\x7b repo.name \x7d\x7d.\"\"\"",
  "import uvicorn",
  "",
  "",
  "def run():",
  "    \"\"\"Serve the application.\"\"\"",
  "    uvicorn.run(\"\x7b\x7b repo.py_name \x7d\x7d.app:app\", host=\"0.0.0.0\", port=8000)  # nosec B104",
  "",
  "",
  "if __name__ == \"__main__\":",
  "    run()",
  ""]

/-- The start of the routes. -/
def apiInit : String := Text.join "\n" [
  "\"\"\"API routes for \x7b\x7b repo.name \x7d\x7d.\"\"\"",
  "from \x7b\x7b repo.py_name \x7d\x7d.api.base import router",
  "",
  "__all__ = [\"router\"]",
  ""]

/-- The basic routes. -/
def apiBase : String := Text.join "\n" [
  "\"\"\"Base API routes.\"\"\"",
  "from fastapi import APIRouter, Depends",
  "",
  "from \x7b\x7b repo.py_name \x7d\x7d.auth import require_api_key",
  "",
  "router = APIRouter(dependencies=[Depends(require_api_key)])",
  "",
  "",
  "@router.get(\"/health\")",
  "def health():",
  "    \"\"\"Liveness check.\"\"\"",
  "    return \x7b\"status\": \"ok\"\x7d",
  ""]

/-- The image of the service. -/
def dockerfile : String := Text.join "\n" [
  "FROM python:3.11-slim",
  "",
  "WORKDIR /app",
  "COPY . /app",
  "RUN pip install --no-cache-dir .",
  "",
  "EXPOSE 8000",
  "CMD [\"\x7b\x7b repo.name \x7d\x7d\"]",
  ""]

/-- What the image passes over. -/
def dockerignore : String := Text.join "\n" [
  ".git",
  ".nox",
  ".venv",
  "__pycache__",
  "*.egg-info",
  "build",
  "dist",
  "docs",
  "tests",
  ""]

end Scaffold.Builtin
