/-!
# Registry — extensions by group and name

Groups hold their extensions in the order in which names were first registered.  Registering a name
again replaces the extension and keeps its place.
-/

namespace Scaffold

/-- Extensions by **group** and name. -/
structure Registry (α : Type) where
  groups : List (String × List (String × α))

namespace Registry

variable {α : Type}

/-- A registry without groups. -/
def empty : Registry α := ⟨[]⟩

/-- The entry under a key. -/
def get? {β : Type} : List (String × β) → String → Option β
  | [], _ => none
  | (k, v) :: es, key => if k = key then some v else get? es key

/-- Sets the entry under a key, in its place or at the end. -/
def put {β : Type} : List (String × β) → String → β → List (String × β)
  | [], key, value => [(key, value)]
  | (k, v) :: es, key, value => if k = key then (k, value) :: es else (k, v) :: put es key value

/-- **Registers** an extension. -/
def register (r : Registry α) (group name : String) (extension : α) : Registry α :=
  ⟨put r.groups group (put ((get? r.groups group).getD []) name extension)⟩

/-- The names of a group. -/
def names (r : Registry α) (group : String) : List String :=
  ((get? r.groups group).getD []).map (·.1)

/-- The extension of a group under a name. -/
def find? (r : Registry α) (group name : String) : Option α :=
  (get? r.groups group).bind fun es => get? es name

/-- The warning for a name that a group does not have. -/
def missingText (group name : String) : String :=
  "Extension '" ++ name ++ "' not found for '" ++ group ++ "'"

/-- **Looks up** an extension; a miss is warned about. -/
def load (r : Registry α) (group name : String) : Option α × List String :=
  match r.find? group name with
  | some extension => (some extension, [])
  | none => (none, [missingText group name])

end Registry

end Scaffold
