import Scaffold.Arguments
import Scaffold.Yaml.Decode

/-!
# Arguments/File — arguments from a file

A file of arguments holds a mapping, as JSON or else as YAML; a file that holds nothing gives no
arguments.
-/

namespace Scaffold

namespace Arguments

/-- **Reads arguments** from a file, as JSON or as YAML. -/
def load (d : Disk) (p : Path) : Except Error Context :=
  match d.readText p with
  | .error fault => .error (.disk fault)
  | .ok text =>
    let value :=
      match Json.read? text with
      | some v => some v
      | none => (Yaml.Node.readText? text).bind Json.ofYaml?
    match value with
    | some (.obj fs) => .ok fs
    | some .null => .ok []
    | some _ => .error (.config (.notArguments p.text))
    | none => .error .yaml

end Arguments

end Scaffold
