import Scaffold.Recipe.Basic
import Scaffold.Yaml.Decode
import Scaffold.Yaml.Writer

/-!
# Recipe/Record — what is noted down of a creation

Every creation adds a `BatchRecord` to the list in the batch file of the created root.  The entries that
are there already are kept as values, whatever they are.
-/

namespace Scaffold

/-- The file with the records. -/
def batchFile : String := ".recipe-batch.yaml"

/-- The version that records carry. -/
def toolVersion : String := "0.3.0"

/-- A **record** of a creation. -/
structure BatchRecord where
  context : Context
  toolVersion : String
  creationTime : String
  recipe : RecipeInfo

/-- Reads what a recipe has said of itself. -/
def RecipeInfo.ofNode? (n : Yaml.Node) : Option RecipeInfo :=
  match n.members? with
  | none => none
  | some ms =>
    match Yaml.Node.field? ms "name", Yaml.Node.fieldOr? ms "version"
        (Yaml.Node.optional? Yaml.Node.text?) none, Yaml.Node.field? ms "extension_name" with
    | some (some name), some version, some (some extensionName) =>
      match name.text?, extensionName.text? with
      | some name, some extensionName => some ⟨name, version, extensionName⟩
      | _, _ => none
    | _, _, _ => none

namespace BatchRecord

/-- The value of a record. -/
def toValue (b : BatchRecord) : Yaml.Value :=
  .record [("context", .ofJson (.obj b.context)), ("tool_version", .str b.toolVersion),
    ("creation_time", .str b.creationTime), ("recipe", b.recipe.toValue)]

/-- Reads a record. -/
def ofNode? (n : Yaml.Node) : Option BatchRecord :=
  match n.members? with
  | none => none
  | some ms =>
    match Yaml.Node.field? ms "context", Yaml.Node.field? ms "tool_version",
        Yaml.Node.field? ms "creation_time", Yaml.Node.field? ms "recipe" with
    | some (some context), some (some version), some (some time), some (some recipe) =>
      match context.pairs?.bind Json.ofYamlPairs?, version.text?, time.text?,
          RecipeInfo.ofNode? recipe with
      | some context, some version, some time, some recipe =>
        some ⟨Fields.ofPairs context, version, time, recipe⟩
      | _, _, _, _ => none
    | _, _, _, _ => none

/-- Reads a text that holds a list of records. -/
def readList? (text : String) : Option (List BatchRecord) :=
  ((Yaml.Node.readText? text).bind Yaml.Node.items?).bind fun ns => ns.mapM ofNode?

/-- Reads the records of a file. -/
def load (d : Disk) (file : Path) : Except Error (List BatchRecord) :=
  match d.readText file with
  | .error fault => .error (.disk fault)
  | .ok text =>
    match readList? text with
    | some bs => .ok bs
    | none => .error .yaml

/-- The entries of a batch file, none if there is no file. -/
def entries (d : Disk) (file : Path) : Except Error (List Yaml.Value) :=
  if !d.pathExists file then .ok []
  else
    match d.readText file with
    | .error fault => .error (.disk fault)
    | .ok text =>
      match Yaml.Value.readList? text with
      | some vs => .ok vs
      | none => .error .yaml

/-- **Adds** a record to the batch file in a root. -/
def add (b : BatchRecord) (d : Disk) (root : Path) : Disk × Except Error Unit :=
  let file := root.joinName batchFile
  match entries d file with
  | .error e => (d, .error e)
  | .ok vs =>
    match d.writeFile file (Yaml.Value.seq (vs ++ [b.toValue])).text.toUTF8 with
    | .error fault => (d, .error (.disk fault))
    | .ok d => (d, .ok ())

end BatchRecord

end Scaffold
