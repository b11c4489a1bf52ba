import Scaffold.Json.Reader
import Scaffold.Naming.Document
import Scaffold.Builtin.Resources

/-!
# Config — the settings of a directory

The first of three files found in a directory holds its settings: where the naming rules are and how
they are enforced, a directory of resources that come before the built-in ones, and default arguments.
The settings are read as JSON and, where that fails, as YAML; what they leave out has a default, and
names they do not know are refused.
-/

namespace Scaffold

/-- The **settings** of a directory. -/
structure Config where
  namespaces : Option Path
  naming : Enforcement
  resources : Option Path
  defaults : Context
deriving Inhabited

namespace Config

/-- The settings where there are none. -/
def standard : Config := ⟨none, .warn, none, []⟩

/-- The files that can hold settings, in the order they are looked for. -/
def fileNames : List String := ["kiln.json", "kiln.yml", "kiln.yaml"]

/-- The names of the settings. -/
def keys : List String := ["namespaces", "naming", "resources", "defaults"]

/-! ## As JSON -/

/-- Reads default arguments from data. -/
def defaultsOf : Json → Except DecodeFault Context
  | .obj fs => .ok fs
  | v => .error (.wrongType v "a map")

/-- Reads the settings from the fields that are given. -/
def ofFields (fs : Fields) : Except DecodeFault Config :=
  match Decode.may fs "namespaces" (Decode.optional Decode.text) none,
    Decode.may fs "naming" (Decode.variant Enforcement.known) .warn,
    Decode.may fs "resources" (Decode.optional Decode.text) none,
    Decode.may fs "defaults" defaultsOf [] with
  | .ok namespaces, .ok naming, .ok resources, .ok defaults =>
    .ok ⟨namespaces.map Path.mk, naming, resources.map Path.mk, defaults⟩
  | .error e, _, _, _ => .error e
  | _, .error e, _, _ => .error e
  | _, _, .error e, _ => .error e
  | _, _, _, .error e => .error e

/-- Whether a name comes twice. -/
def repeats : List String → Bool
  | [] => false
  | k :: ks => ks.contains k || repeats ks

/-- Reads the settings from data as it is written: an object, or an array in the order of `keys`. -/
def ofJson? : Json → Option Config
  | .obj members =>
    let names := members.map (·.1)
    if repeats names || !names.all keys.contains then none
    else
      match (Json.obj members).settle with
      | .obj fs => (ofFields fs).toOption
      | _ => none
  | .arr items =>
    if keys.length < items.length then none
    else (ofFields (Fields.ofPairs (keys.zip (items.map Json.settle)))).toOption
  | _ => none

/-! ## As YAML -/

/-- Reads default arguments from a node. -/
def defaultsOfNode? (n : Yaml.Node) : Option Context :=
  (n.pairs?.bind Json.ofYamlPairs?).map Fields.ofPairs

/-- Reads the settings from a node. -/
def ofNode? (n : Yaml.Node) : Option Config :=
  match n.members? with
  | none => none
  | some ms =>
    if !ms.all fun m => keys.contains m.1 then none
    else
      match Yaml.Node.fieldOr? ms "namespaces" (Yaml.Node.optional? Yaml.Node.text?) none,
        Yaml.Node.fieldOr? ms "naming" (Yaml.Node.variant? Enforcement.known) .warn,
        Yaml.Node.fieldOr? ms "resources" (Yaml.Node.optional? Yaml.Node.text?) none,
        Yaml.Node.fieldOr? ms "defaults" defaultsOfNode? [] with
      | some namespaces, some naming, some resources, some defaults =>
        some ⟨namespaces.map Path.mk, naming, resources.map Path.mk, defaults⟩
      | _, _, _, _ => none

/-! ## Finding and using settings -/

/-- **Reads** settings from a text. -/
def ofText (text : String) : Except Error Config :=
  match (Json.readAsWritten? text).bind ofJson? with
  | some c => .ok c
  | none =>
    match (Yaml.Node.readText? text).bind ofNode? with
    | some c => .ok c
    | none => .error (.config .unreadable)

/-- The first file with settings in a directory, and its text. -/
def find (d : Disk) (dir : Path) : Except Error (Option (Path × String)) :=
  match (fileNames.map dir.joinName).find? d.pathExists with
  | none => .ok none
  | some p =>
    match d.readText p with
    | .ok text => .ok (some (p, text))
    | .error fault => .error (.disk fault)

/-- The **settings of a directory**; the paths they hold start there. -/
def load (d : Disk) (dir : Path) : Except Error Config :=
  match find d dir with
  | .error e => .error e
  | .ok none => .ok standard
  | .ok (some (_, text)) =>
    (ofText text).map fun c =>
      { c with namespaces := c.namespaces.map dir.join, resources := c.resources.map dir.join }

/-- The naming rules that are set, if any. -/
def rules (c : Config) (d : Disk) : Except Error (Option Naming) :=
  match c.namespaces with
  | none => .ok none
  | some p => (Naming.load d p).map some

/-- The renderer that knows the resources that are set and the built-in ones. -/
def renderer (c : Config) : Renderer :=
  ⟨(c.resources.map ResourceSource.directory).toList ++ [.builtin]⟩

end Config

end Scaffold
