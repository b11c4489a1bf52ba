import Scaffold.Node.Basic

/-!
# Node/Outline — an indented view of a layout

Every node has a line with its name, its kind and its identifier; files come before folders.  Names
are rendered if a context is given, and shown as they are declared if not.
-/

namespace Scaffold

namespace Node

/-- The line for a node. -/
def describe (r : Renderer) (d : Disk) (context : Option Context) (kind : String)
    (id : Option String) (name : Name) : Except Error String :=
  let line (label : String) : String :=
    label ++ " = " ++ kind ++ "(" ++ (match id with | some s => "id: " ++ s ++ ", " | none => "") ++
      "name: " ++ name.shown ++ ")"
  match context with
  | none => .ok (line name.shown)
  | some ctx =>
    match name.resolve r d ctx with
    | .error e => .error e
    | .ok resolved => .ok (line (resolved.getD "<none>"))

/-- The line of a child below its parent. -/
def branch (indent : Nat) (text : String) : String :=
  "\n" ++ String.ofList (List.replicate indent ' ') ++ "|- " ++ text

mutual

/-- The lines of a node and of all below it. -/
def outline (r : Renderer) (d : Disk) (context : Option Context) (indent : Nat) :
    Node → Except Error String
  | .file id name _ => describe r d context "File" id name
  | .folder id name contents =>
    match describe r d context "Folder" id name, outlineAll r d context indent false contents,
        outlineAll r d context indent true contents with
    | .error e, _, _ => .error e
    | _, .error e, _ => .error e
    | _, _, .error e => .error e
    | .ok line, .ok files, .ok folders => .ok (line ++ files ++ folders)

/-- The lines of the children of one kind. -/
def outlineAll (r : Renderer) (d : Disk) (context : Option Context) (indent : Nat)
    (folders : Bool) : List Node → Except Error String
  | [] => .ok ""
  | n :: ns =>
    if n.isFolder = folders then
      match outline r d context (indent + 2) n, outlineAll r d context indent folders ns with
      | .error e, _ => .error e
      | _, .error e => .error e
      | .ok line, .ok rest => .ok (branch indent line ++ rest)
    else outlineAll r d context indent folders ns

end

end Node

/-- The **outline** of a folder. -/
def Folder.outline (f : Folder) (r : Renderer) (d : Disk) (context : Option Context) :
    Except Error String :=
  f.toNode.outline r d context 0

end Scaffold
