import Scaffold.Parameter.Basic
import Scaffold.Error

/-!
# Parameter/Missing — arguments that are not there

`Parameter.missingAll` lists the arguments that have to be given and are not, by dotted labels;
`Parameter.fillAllAfter` asks for each of them in turn.  Both look into records: an absent record counts
as an empty one.  A value that is no record hides what it should hold from the first, and is replaced by
the second.
-/

namespace Scaffold.Parameter

/-- The label of an argument below a record. -/
def label (trail name : String) : String := if trail.isEmpty then name else trail ++ "." ++ name

/-- The record that is searched under a name: an empty one if there is no value, none if the value is no
record. -/
def searched? (given : Fields) (name : String) : Option Fields :=
  match Fields.get? given name with
  | none => some []
  | some v => v.fields?

mutual

/-- The labels of arguments that are **missing** for one parameter. -/
def missing (trail : String) (given : Fields) : Parameter → List String
  | .plain name _ _ fallback =>
    if fallback.isNone && !Fields.has given name then [label trail name] else []
  | .record name _ _ _ fields =>
    match searched? given name with
    | none => []
    | some inner => missingAll (label trail name) inner fields
  | .signature name _ _ fields =>
    match searched? given name with
    | none => []
    | some inner => missingAll (label trail name) inner fields

/-- The labels of arguments that are missing for some parameters. -/
def missingAll (trail : String) (given : Fields) : List Parameter → List String
  | [] => []
  | p :: ps => missing trail given p ++ missingAll trail given ps

end

/-- A **question** for an argument. -/
structure Question where
  label : String
  annotation : String
deriving DecidableEq, Repr

/-- What comes of asking: the questions, the arguments, and whether every question was answered. -/
structure Filled where
  asked : List Question
  given : Fields
  result : Except Error Unit

/-- Nothing is asked. -/
def Filled.nothing (given : Fields) : Filled := ⟨[], given, .ok ()⟩

/-- Puts a record back once its arguments are filled in; an empty one is left out unless it was there. -/
def putRecord (given : Fields) (name : String) (before after : Fields) : Fields :=
  if before.length < after.length || Fields.has given name then
    Fields.insert given name (.obj after)
  else given

/-- The record under a name, empty if there is none. -/
def recordOf (given : Fields) (name : String) : Fields :=
  ((Fields.get? given name).bind Json.fields?).getD []

/-- Puts a record back if it could be filled in. -/
def Filled.within (inner : Filled) (given : Fields) (name : String) : Filled :=
  match inner.result with
  | .error e => ⟨inner.asked, given, .error e⟩
  | .ok () => ⟨inner.asked, putRecord given name (recordOf given name) inner.given, .ok ()⟩

/-- Who **answers** questions, knowing those that were asked before. -/
abbrev Prompter := List Question → Question → Except Error Json

mutual

/-- **Asks** for what is missing for one parameter, after some questions. -/
def fillAfter (answer : Prompter) (past : List Question) (trail : String) (given : Fields) :
    Parameter → Filled
  | .plain name annotation _ fallback =>
    if fallback.isNone && !Fields.has given name then
      let question : Question := ⟨label trail name, annotation⟩
      match answer past question with
      | .ok v => ⟨[question], Fields.insert given name v, .ok ()⟩
      | .error e => ⟨[question], given, .error e⟩
    else .nothing given
  | .record name _ _ _ fields =>
    (fillAllAfter answer past (label trail name) (recordOf given name) fields).within given name
  | .signature name _ _ fields =>
    (fillAllAfter answer past (label trail name) (recordOf given name) fields).within given name

/-- Asks for what is missing for some parameters, up to the first question without an answer. -/
def fillAllAfter (answer : Prompter) (past : List Question) (trail : String) (given : Fields) :
    List Parameter → Filled
  | [] => .nothing given
  | p :: ps =>
    let first := fillAfter answer past trail given p
    match first.result with
    | .error e => ⟨first.asked, first.given, .error e⟩
    | .ok () =>
      let rest := fillAllAfter answer (past ++ first.asked) trail first.given ps
      { rest with asked := first.asked ++ rest.asked }

end

/-- Asks for what is missing for some parameters, where what was asked before makes no difference. -/
def fillAll (ask : Question → Except Error Json) (trail : String) (given : Fields)
    (ps : List Parameter) : Filled :=
  fillAllAfter (fun _ => ask) [] trail given ps

end Scaffold.Parameter
