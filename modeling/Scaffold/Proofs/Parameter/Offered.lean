import Scaffold.Parameter.Missing
import Scaffold.Proofs.Arguments.Layers
import Scaffold.Proofs.Json.Records

/-!
# Proofs/Parameter/Offered — what stands in for an argument

Next to the labels of what is missing, a list of parameters has the paths of what may be left out, each
with what stands in for it (`Parameter.offeredAll`).  Showing the parameters of records adds no path and
takes none away below them (`offered_expanded_subset`), and changes no label (`missing_expanded`).
Parameters that describe the fields of a record one by one miss nothing where the record is complete
(`Describes.missingAll_eq_nil`).
-/

namespace Scaffold.Parameter

variable {given : Fields} {trail name : String}

mutual

/-- The paths a parameter **may leave out**, with what stands in for each. -/
def offered : Parameter → List (List String × Json)
  | .plain name _ _ fallback => fallback.toList.map fun v => ([name], v)
  | .record name _ _ fallback fields =>
    (fallback.toList.map fun v => ([name], v)) ++ (offeredAll fields).map fun o => (name :: o.1, o.2)
  | .signature name _ _ fields => (offeredAll fields).map fun o => (name :: o.1, o.2)

/-- The paths some parameters may leave out, with what stands in for each. -/
def offeredAll : List Parameter → List (List String × Json)
  | [] => []
  | p :: ps => offered p ++ offeredAll ps

end

/-- What some parameters offer is what **one of them** offers. -/
theorem mem_offeredAll {o : List String × Json} : ∀ {ps : List Parameter},
    o ∈ offeredAll ps ↔ ∃ p ∈ ps, o ∈ offered p
  | [] => by simp [offeredAll]
  | p :: ps => by
    rw [offeredAll, List.mem_append, mem_offeredAll, List.exists_mem_cons_iff]

/-- Parameters offer what those **before and after** offer. -/
theorem offeredAll_append {ps qs : List Parameter} :
    offeredAll (ps ++ qs) = offeredAll ps ++ offeredAll qs := by
  induction ps with
  | nil => rfl
  | cons p ps ih => rw [List.cons_append, offeredAll, offeredAll, ih, List.append_assoc]

/-- A parameter that shows those of its record **offers no more**. -/
theorem offered_expanded_subset : ∀ p : Parameter, offered p.expanded ⊆ offered p
  | .plain _ _ _ _ => List.Subset.refl _
  | .record _ _ _ _ _ => by
    rw [expanded, offered, offered]
    exact List.subset_append_right _ _
  | .signature _ _ _ _ => List.Subset.refl _

/-- Nothing is missing for some parameters if nothing is missing **for each**. -/
theorem missingAll_eq_nil : ∀ {ps : List Parameter},
    missingAll trail given ps = [] ↔ ∀ p ∈ ps, missing trail given p = []
  | [] => by simp [missingAll]
  | p :: ps => by
    rw [missingAll, List.append_eq_nil_iff, missingAll_eq_nil, List.forall_mem_cons]

/-- A parameter misses the same where those of its record are **shown**. -/
theorem missing_expanded : ∀ p : Parameter, missing trail given p.expanded = missing trail given p
  | .plain _ _ _ _ => rfl
  | .record _ _ _ _ _ => by rw [expanded, missing, missing]
  | .signature _ _ _ _ => rfl

/-! ## Records among arguments -/

/-- Under a name there is **nothing, or a mapping**. -/
def AbsentOrMapping (given : Fields) (name : String) : Prop :=
  ∀ v, Fields.get? given name = some v → v.isObject = true

/-- A record that is absent counts as **empty**; any other is the mapping itself. -/
theorem AbsentOrMapping.get? (h : AbsentOrMapping given name) :
    (Fields.get? given name = none ∧ recordOf given name = []) ∨
      Fields.get? given name = some (.obj (recordOf given name)) := by
  cases hget : Fields.get? given name with
  | none => exact Or.inl ⟨rfl, by rw [recordOf, hget]; rfl⟩
  | some v =>
    have hobject := h v hget
    refine Or.inr ?_
    cases v <;> simp_all [Json.isObject, Json.fields?, recordOf]

/-- Where there is nothing or a mapping, the **record** is what is searched. -/
theorem AbsentOrMapping.searched? (h : AbsentOrMapping given name) :
    searched? given name = some (recordOf given name) := by
  rw [Parameter.searched?]
  rcases h.get? with ⟨hget, hrecord⟩ | hget
  · rw [hget, hrecord]
  · rw [hget]
    rfl

/-- **Within a record** a path finds what is under its second name. -/
theorem AbsentOrMapping.at? (h : AbsentOrMapping given name) (key : String) :
    (Json.obj given).at? [name, key] = Fields.get? (recordOf given name) key := by
  rw [Json.at?_obj_cons]
  rcases h.get? with ⟨hget, hrecord⟩ | hget
  · rw [hget, hrecord]
    rfl
  · rw [hget]
    cases hkey : Fields.get? (recordOf given name) key <;> simp [Json.member?, hkey]

/-- A value that is inserted within a record is inserted **into the record**. -/
theorem AbsentOrMapping.insertAt (h : AbsentOrMapping given name) (key : String) (v : Json) :
    Arguments.insertAt given v [name, key] =
      .ok (Fields.insert given name (.obj (Fields.insert (recordOf given name) key v))) := by
  rw [Arguments.insertAt]
  rcases h.get? with ⟨hget, hrecord⟩ | hget
  · rw [hget, hrecord]
    rfl
  · rw [hget]
    rfl

/-- The record under another name **stays**. -/
theorem recordOf_erase_of_ne {other : String} (h : other ≠ name) :
    recordOf (Fields.erase given other) name = recordOf given name := by
  rw [recordOf, Fields.get?_erase_of_ne h, recordOf]

/-- What is absent or a mapping stays so where **another name** is taken away. -/
theorem AbsentOrMapping.erase {other : String} (h : AbsentOrMapping given name) (hne : other ≠ name) :
    AbsentOrMapping (Fields.erase given other) name := fun v hv =>
  h v ((Fields.get?_erase_of_ne hne).symm.trans hv)

/-- The record under a name among ordered arguments is **ordered**. -/
theorem ordered_recordOf (h : (Json.obj given).Ordered) : (Json.obj (recordOf given name)).Ordered := by
  rw [recordOf]
  cases hfields : (Fields.get? given name).bind Json.fields? with
  | none => exact Json.ordered_nil
  | some fs =>
    obtain ⟨v, hget, hv⟩ := Option.bind_eq_some_iff.mp hfields
    obtain rfl : v = .obj fs := by cases v <;> simp_all [Json.fields?]
    exact h.get? hget

/-! ## Parameters beside a record -/

/-- **Parameters describe** the fields of a record: the same names, to be given alike. -/
def Describes (ps : List Parameter) (fields : List Decode.Field) : Prop :=
  List.Forall₂ (fun p f => ∃ type origin fallback,
    p = .plain f.key type origin fallback ∧ fallback.isNone = f.required) ps fields

/-- Nothing is missing for parameters that describe a record where the record has **all it must
have**. -/
theorem Describes.missingAll_eq_nil : ∀ {ps : List Parameter} {fields : List Decode.Field},
    Describes ps fields → (missingAll trail given ps = [] ↔
      ∀ f ∈ fields, f.required = true → Fields.has given f.key = true)
  | _, _, .nil => by simp [missingAll]
  | _, _, .cons (b := f) ⟨type, origin, fallback, hp, hrequired⟩ hrest => by
    rw [missingAll, List.append_eq_nil_iff, Describes.missingAll_eq_nil hrest, List.forall_mem_cons,
      hp, missing, hrequired]
    simp

end Scaffold.Parameter
