import Scaffold.Resource.Basic

/-!
# Resource/Source — where resources come from

A source holds resources in memory or finds them below a directory: the dots of a module path become
directories.  Sources are tried in order, and only a resource that a source does not have sends the
search on; any other failure ends it.
-/

namespace Scaffold

/-- A **source** of resources. -/
inductive ResourceSource where
  /-- Files by module and name. -/
  | embedded (modules : List (String × List (String × String)))
  | directory (root : Path)
deriving Inhabited

namespace ResourceSource

/-- The path of a resource below a directory. -/
def pathOf (root : Path) (r : Resource) : Path :=
  (root.joinAll (Text.split '.' r.module)).joinName r.filename

/-- The value under a key. -/
def lookup? {α : Type} (entries : List (String × α)) (key : String) : Option α :=
  (entries.find? fun e => e.1 == key).map (·.2)

/-- **Loads** a resource from one source. -/
def load (d : Disk) (r : Resource) : ResourceSource → Except Error String
  | .embedded modules =>
    match (lookup? modules r.module).bind (lookup? · r.filename) with
    | some text => .ok text
    | none => .error r.notFound
  | .directory root =>
    match d.readText (pathOf root r) with
    | .ok text => .ok text
    | .error .notFound => .error r.notFound
    | .error fault => .error (.disk fault)

/-- Loads a resource from the first source that has it. -/
def loadFirst (d : Disk) (r : Resource) : List ResourceSource → Except Error String
  | [] => .error r.notFound
  | s :: ss =>
    match s.load d r with
    | .error (.templateNotFound _) => loadFirst d r ss
    | result => result

end ResourceSource

end Scaffold
