import Scaffold.Json.Reader
import Scaffold.Error

/-!
# Arguments — arguments of a recipe, piece by piece

Arguments come as pairs on the command line and as mappings from files.  A dotted key addresses a field
inside nested mappings, and one mapping is laid over another field by field.
-/

namespace Scaffold

/-- Why a text is no `KEY=VALUE` **pair**. -/
inductive PairFault where
  | noEquals (text : String)
  | emptyKey (text : String)
  /-- A value that starts like data and is none. -/
  | badValue (key : String)
deriving DecidableEq, Repr

/-- The sentence for a pair fault. -/
def PairFault.message : PairFault → String
  | .noEquals text => "expected KEY=VALUE, got '" ++ text ++ "'"
  | .emptyKey text => "empty key in '" ++ text ++ "'"
  | .badValue key => "invalid value for '" ++ key ++ "'"

namespace Arguments

/-- Whether a value is to be read as data: a word for a truth value or nothing, or a bracket. -/
def looksLikeData (value : List Char) : Bool :=
  value == "true".toList || value == "false".toList || value == "null".toList ||
    value.head? == some '[' || value.head? == some '\x7b'

/-- Reads a **pair**; the key ends at the first equals sign. -/
def pair (text : String) : Except PairFault (String × Json) :=
  match Text.splitOnce? '=' text.toList with
  | none => .error (.noEquals text)
  | some (key, value) =>
    if key.isEmpty then .error (.emptyKey text)
    else if looksLikeData value then
      match Json.read? (String.ofList value) with
      | some v => .ok (String.ofList key, v)
      | none => .error (.badValue (String.ofList key))
    else .ok (String.ofList key, .str (String.ofList value))

/-- Sets a value below the names of a path, creating mappings on the way. -/
def insertAt (context : Context) (value : Json) : List String → Except ConfigFault Context
  | [] => .ok context
  | [key] => .ok (Fields.insert context key value)
  | head :: next :: rest =>
    match (Fields.get? context head).getD (.obj []) with
    | .obj inner =>
      (insertAt inner value (next :: rest)).map fun inner => Fields.insert context head (.obj inner)
    | _ => .error (.notMapping head (Text.join "." (head :: next :: rest)))

/-- Sets a value at a **dotted key**. -/
def insertPath (context : Context) (key : String) (value : Json) : Except Error Context :=
  match insertAt context value (Text.split '.' key) with
  | .ok context => .ok context
  | .error fault => .error (.config fault)

/-- Sets a value at a key **in place**: what the mapping is left as, and whether the value could be set.
The name in front of the first dot gets an empty mapping if it holds nothing, before what is behind the
dot is tried below it. -/
def store (context : Context) (value : Json) (key : List Char) : Context × Except ConfigFault Unit :=
  match h : Text.splitOnce? '.' key with
  | none => (Fields.insert context (String.ofList key) value, .ok ())
  | some (front, back) =>
    let head := String.ofList front
    let entered := if Fields.has context head then context else Fields.insert context head (.obj [])
    match Fields.get? entered head with
    | some (.obj inner) =>
      let (inner, result) := store inner value back
      (Fields.insert entered head (.obj inner), result)
    | _ => (entered, .error (.notMapping head (String.ofList key)))
termination_by key.length
decreasing_by exact Text.length_of_splitOnce? h

/-- Sets a value at a **dotted key** in place, whether or not all of the way to it can be gone. -/
def storePath (context : Context) (key : String) (value : Json) : Context × Except Error Unit :=
  let (context, result) := store context value key.toList
  (context, result.mapError .config)

mutual

/-- A value laid over an older one. -/
def overlayValue (old : Option Json) : Json → Json
  | .obj update =>
    match old with
    | some (.obj inner) => .obj (overlay inner update)
    | _ => .obj update
  | v => v

/-- **Deep merge**: mappings are merged field by field, every other value replaces the older one. -/
def overlay (base : Fields) : List (String × Json) → Fields
  | [] => base
  | (key, value) :: update =>
    overlay (Fields.insert base key (overlayValue (Fields.get? base key) value)) update

end

end Arguments

end Scaffold
