import Scaffold.Resource.Source
import Scaffold.Template.Exec

/-!
# Renderer — rendering with resources at hand

A `Renderer` resolves the templates that a template extends, includes or imports through its resource
sources.  Rendering starts with no source looked up; whenever it needs one, the source is looked up
and rendering starts again.  A `Session` keeps the templates it has found for the next rendering, but
not the ones it has missed.
-/

namespace Scaffold

/-- A **renderer**: where the resources come from, in the order they are tried. -/
structure Renderer where
  sources : List ResourceSource
deriving Inhabited

namespace Renderer

/-- Loads a resource. -/
def loadResource (r : Renderer) (d : Disk) (resource : Resource) : Except Error String :=
  ResourceSource.loadFirst d resource r.sources

/-- Looks up a template by name.  A name that is no reference names nothing. -/
def findPage (r : Renderer) (d : Disk) (name : String) :
    Except Template.Fault (List Template.Stmt) :=
  let missing : Template.Fault :=
    .notFound ("template " ++ Text.quoted name ++ " does not exist")
  match Resource.read name with
  | .error _ => .error missing
  | .ok resource =>
    match r.loadResource d resource with
    | .ok text => Template.parse text
    | .error (.templateNotFound _) => .error missing
    | .error _ => .error .invalidOperation

/-- How many templates one rendering may look up. -/
def maxPages : Nat := 10000

/-- Renders, looking up sources as they are needed. -/
def renderFrom (r : Renderer) (d : Disk) (template : String) (context : Context) :
    Nat → Template.Pages → Template.Pages × Except Template.Fault String
  | 0, pages => (pages, .error .invalidOperation)
  | fuel + 1, pages =>
    match Template.render pages template context with
    | .error (.needs name) =>
      renderFrom r d template context fuel (pages ++ [(name, r.findPage d name)])
    | result => (pages, result)

/-- A fault as an error of the library. -/
def errorOf : Template.Fault → Error
  | .notFound reference => .templateNotFound reference
  | fault => .template fault

/-- **Renders** a template against a context. -/
def render (r : Renderer) (d : Disk) (template : String) (context : Context) :
    Except Error String :=
  match (r.renderFrom d template context maxPages []).2 with
  | .ok text => .ok text
  | .error fault => .error (errorOf fault)

/-- Templates found by earlier renderings. -/
abbrev Session := Template.Pages

/-- Renders with the templates a session has found, and keeps those that are found now. -/
def renderIn (r : Renderer) (session : Session) (d : Disk) (template : String)
    (context : Context) : Session × Except Error String :=
  match r.renderFrom d template context maxPages session with
  | (pages, result) =>
    (pages.filter fun p => p.2.toBool, match result with
      | .ok text => .ok text
      | .error fault => .error (errorOf fault))

end Renderer

end Scaffold
