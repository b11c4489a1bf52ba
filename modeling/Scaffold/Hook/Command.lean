import Scaffold.Hook.Basic
import Scaffold.Json.Reader

/-!
# Hook/Command — programs as hooks

`Hook.command` runs a program in the created root with the context as its input; where the program
prints an object, its fields replace those of the context.  `Hook.precommitInstall` lets `pre-commit`
install its own hooks where the root is set up for it.
-/

namespace Scaffold.Hook

/-- The file that sets a root up for `pre-commit`. -/
def precommitFile : String := ".pre-commit-config.yaml"

/-- The program that installs hooks. -/
def precommit : String := "pre-commit"

/-- The warning where the program that installs hooks is missing. -/
def precommitMissing : String := "pre-commit is not installed, skipping hook installation"

/-- What a program has printed. -/
def printed (left : Shell.Left) : Log := ⟨[], Text.lossy left.output, Text.lossy left.errors⟩

/-- The hook that lets `pre-commit` **install** its hooks. -/
def precommitInstall : Hook where
  call h d p _ :=
    if !d.pathExists (p.joinName precommitFile) then .nothing d
    else
      match h.lookup precommit false with
      | .denied => .failed d (.hookFailed .installNotStarted)
      | .missing => ⟨d, .warning precommitMissing, .ok none⟩
      | .found _ =>
        match Shell.run h d p precommit ["install", "--install-hooks"] ByteArray.empty with
        | none => ⟨d, .warning precommitMissing, .ok none⟩
        | some left =>
          match left.ending with
          | none => ⟨left.disk, printed left, .ok none⟩
          | some status => ⟨left.disk, printed left, .error (.hookFailed (.installFailed status))⟩

/-- The fields of the object that a program prints, if it prints one. -/
def printedFields? (output : ByteArray) : Option Fields :=
  (Json.read? (String.ofList (Text.trim (Text.lossy output).toList))).bind Json.fields?

/-- The hook that **runs a program**. -/
def command (program : String) (args : List String) : Hook where
  call h d p ctx :=
    match Shell.run h d p program args (Json.obj ctx).text.toUTF8 with
    | none => .failed d (.hookFailed (.notStarted program))
    | some left =>
      let log : Log := ⟨[], "", Text.lossy left.errors⟩
      match left.ending with
      | some status => ⟨left.disk, log, .error (.hookFailed (.commandFailed program status))⟩
      | none =>
        ⟨left.disk, log, .ok ((printedFields? left.output).map fun fs => (p, Fields.merge ctx fs))⟩

end Scaffold.Hook
