import Scaffold.Json.Basic
import Scaffold.Number.Shortest
import Scaffold.Text.Quoted
import Scaffold.Text.Split

/-!
# Json/Decode — records read from data

A record is read from an object, by the names of its fields, or from an array, by their order.  Names
a record does not know are passed over.  In an object the first fault is the one of the first name in
order, then the first field that is missing; in an array faults come by position.
-/

namespace Scaffold

/-- Why data **does not fit** a type. -/
inductive DecodeFault where
  | missingField (name : String)
  | wrongType (found : Json) (expected : String)
  | wrongValue (found : Json) (expected : String)
  /-- An array of the wrong length. -/
  | wrongLength (length : Nat) (expected : String)
  | unknownVariant (name : String) (known : List String)
deriving Inhabited

namespace DecodeFault

/-- Doubles show without an exponent. -/
def floatFormat : FloatFormat := ⟨none, none, false, "NaN", "inf"⟩

/-- Text between backticks. -/
def ticked (s : String) : String := "`" ++ s ++ "`"

/-- What was found. -/
def describe : Json → String
  | .null => "null"
  | .bool b => "boolean " ++ ticked (if b then "true" else "false")
  | .num (.int n) => "integer " ++ ticked (toString n)
  | .num (.float x) => "floating point " ++ ticked (floatFormat.text x)
  | .str s => "string " ++ Text.quoted s
  | .arr _ => "sequence"
  | .obj _ => "map"

/-- The choice between names. -/
def choice : List String → String
  | [] => "there are no variants"
  | [a] => "expected " ++ ticked a
  | [a, b] => "expected " ++ ticked a ++ " or " ++ ticked b
  | names => "expected one of " ++ Text.join ", " (names.map ticked)

/-- The **sentence** for a fault. -/
def message : DecodeFault → String
  | .missingField name => "missing field " ++ ticked name
  | .wrongType found expected => "invalid type: " ++ describe found ++ ", expected " ++ expected
  | .wrongValue found expected => "invalid value: " ++ describe found ++ ", expected " ++ expected
  | .wrongLength n expected => "invalid length " ++ toString n ++ ", expected " ++ expected
  | .unknownVariant name known => "unknown variant " ++ ticked name ++ ", " ++ choice known

end DecodeFault

namespace Decode

/-- A text. -/
def text : Json → Except DecodeFault String
  | .str s => .ok s
  | v => .error (.wrongType v "a string")

/-- A truth value. -/
def bool : Json → Except DecodeFault Bool
  | .bool b => .ok b
  | v => .error (.wrongType v "a boolean")

/-- An integer of 32 bits. -/
def int32 : Json → Except DecodeFault Int
  | .num (.int n) =>
    if -Int.pow 2 31 ≤ n ∧ n < Int.pow 2 31 then .ok n else .error (.wrongValue (.int n) "i32")
  | v => .error (.wrongType v "i32")

/-- A value that may be null. -/
def optional {α : Type} (decode : Json → Except DecodeFault α) : Json → Except DecodeFault (Option α)
  | .null => .ok none
  | v => (decode v).map some

/-- One of several names, alone or as the only name of an object that holds null. -/
def variant {α : Type} (known : List (String × α)) (v : Json) : Except DecodeFault α :=
  match v with
  | .str s => named s
  | .obj [(s, content)] =>
    match named s, content with
    | .error e, _ => .error e
    | .ok a, .null => .ok a
    | .ok _, content => .error (.wrongType content "unit")
  | .obj _ => .error (.wrongValue v "map with a single key")
  | v => .error (.wrongType v "string or map")
where
  named (s : String) : Except DecodeFault α :=
    match known.find? fun k => k.1 == s with
    | some k => .ok k.2
    | none => .error (.unknownVariant s (known.map (·.1)))

/-! ## Records -/

/-- A **field** of a record: its name, whether it may be left out, and what its value may be. -/
structure Field where
  key : String
  required : Bool
  fault? : Json → Option DecodeFault

/-- A field that must be there. -/
def Field.need {α : Type} (key : String) (decode : Json → Except DecodeFault α) : Field :=
  ⟨key, true, fun v => match decode v with | .ok _ => none | .error e => some e⟩

/-- A field that may be left out. -/
def Field.may {α : Type} (key : String) (decode : Json → Except DecodeFault α) : Field :=
  ⟨key, false, fun v => match decode v with | .ok _ => none | .error e => some e⟩

/-- The **shape** of a record. -/
structure Shape where
  title : String
  fields : List Field

namespace Shape

/-- How an array of the wrong length is refused. -/
def lengthText (s : Shape) : String :=
  "struct " ++ s.title ++ " with " ++ toString s.fields.length ++
    if s.fields.length = 1 then " element" else " elements"

/-- The first fault of the fields an object has, in the order of names. -/
def namedFault? (s : Shape) : Fields → Option DecodeFault
  | [] => none
  | (k, v) :: fs =>
    match (s.fields.find? fun f => f.key == k).bind (·.fault? v) with
    | some e => some e
    | none => namedFault? s fs

/-- The first field an object must have and has not. -/
def missing? (s : Shape) (fs : Fields) : Option DecodeFault :=
  (s.fields.find? fun f => f.required && !Fields.has fs f.key).map (.missingField ·.key)

/-- The first fault of an array; `i` fields precede. -/
def listedFault? (s : Shape) : Nat → List Field → List Json → Option DecodeFault
  | _, [], [] => none
  | i, [], rest => some (.wrongLength (i + rest.length) "fewer elements in array")
  | i, f :: fs, [] =>
    if f.required then some (.wrongLength i s.lengthText) else listedFault? s (i + 1) fs []
  | i, f :: fs, v :: vs =>
    match f.fault? v with
    | some e => some e
    | none => listedFault? s (i + 1) fs vs

/-- The fields of a record by name, once no fault is left. -/
def read (s : Shape) : Json → Except DecodeFault Fields
  | .obj fs =>
    match s.namedFault? fs with
    | some e => .error e
    | none =>
      match s.missing? fs with
      | some e => .error e
      | none => .ok fs
  | .arr items =>
    match s.listedFault? 0 s.fields items with
    | some e => .error e
    | none => .ok (Fields.ofPairs ((s.fields.map (·.key)).zip items))
  | v => .error (.wrongType v ("struct " ++ s.title))

end Shape

/-- The value of a field that must be there. -/
def need {α : Type} (fs : Fields) (key : String) (decode : Json → Except DecodeFault α) :
    Except DecodeFault α :=
  match Fields.get? fs key with
  | some v => decode v
  | none => .error (.missingField key)

/-- The value of a field, or what stands in for it. -/
def may {α : Type} (fs : Fields) (key : String) (decode : Json → Except DecodeFault α)
    (otherwise : α) : Except DecodeFault α :=
  match Fields.get? fs key with
  | some v => decode v
  | none => .ok otherwise

end Decode

end Scaffold
