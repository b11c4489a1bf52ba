import Scaffold.Recipe.Basic

/-!
# Recipe/Shown — recipes as they are declared

`Node.shown` writes a node on one line with all that is declared of it, `Recipe.shown` a recipe with its
contents.
-/

namespace Scaffold

/-- A text that may be absent. -/
def shownOption : Option String → String
  | none => "None"
  | some s => "Some(" ++ Text.quoted s ++ ")"

namespace Node

/-- What is declared of a node, between braces. -/
def shownFields (kind : String) (id : Option String) (name : Name) (label contents : String) :
    String :=
  kind ++ "(" ++ kind ++ " \x7b id: " ++ shownOption id ++ ", name: " ++ name.shown ++ ", " ++
    label ++ ": " ++ contents ++ " \x7d)"

mutual

/-- A node **as it is declared**. -/
def shown : Node → String
  | .file id name source => shownFields "File" id name "content" source.shown
  | .folder id name contents =>
    shownFields "Folder" id name "contents" ("[" ++ Text.join ", " (shownAll contents) ++ "]")

/-- Nodes as they are declared. -/
def shownAll : List Node → List String
  | [] => []
  | n :: ns => shown n :: shownAll ns

end

end Node

/-- A recipe **as it is declared**. -/
def Recipe.shown (r : Recipe) : String :=
  "Recipe \x7b name: " ++ Text.quoted r.name ++ ", version: " ++ shownOption r.version ++
    ", extension_name: " ++ Text.quoted r.extensionName ++ ", identity: " ++
    Text.quoted r.identity ++ ", contents: [" ++ Text.join ", " (Node.shownAll r.root.contents) ++
    "], .. \x7d"

end Scaffold
