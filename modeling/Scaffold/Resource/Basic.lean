import Scaffold.Error

/-!
# Resource/Basic — references to packaged templates

A resource is named by a module path and a file name with a colon between them.  `Resource.read`
accepts a text exactly if it has one colon, a module path without signs that modules cannot have, and
a file name of one component.
-/

namespace Scaffold

/-- A **resource**: a file of a module. -/
structure Resource where
  module : String
  filename : String
deriving DecidableEq, Inhabited, Repr

namespace Resource

/-- The reference that names the resource. -/
def text (r : Resource) : String := r.module ++ ":" ++ r.filename

/-- A sign that no module path has. -/
def isForbidden (c : Char) : Bool := c == '-' || c == ' ' || c == '*' || c == '(' || c == ')'

/-- Whether a text can be a module path. -/
def isModule (s : String) : Bool := !s.isEmpty && !s.toList.any isForbidden

/-- Whether a text is a single file name. -/
def isFilename (s : String) : Bool := !s.isEmpty && (Path.components ⟨s⟩).length == 1

/-- Reads a **reference**. -/
def read (reference : String) : Except Error Resource :=
  match Text.split ':' reference with
  | [module, filename] =>
    if !isModule module then .error (.badReference reference (.module module))
    else if !isFilename filename then .error (.badReference reference (.filename filename))
    else .ok ⟨module, filename⟩
  | _ => .error (.badReference reference .shape)

/-- The error of a resource that no source has. -/
def notFound (r : Resource) : Error := .templateNotFound r.text

end Resource

end Scaffold
