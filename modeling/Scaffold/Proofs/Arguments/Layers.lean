import Scaffold.Proofs.Json.Members
import Scaffold.Proofs.Json.Order

/-!
# Proofs/Arguments/Layers — what stands at a path

Nested mappings are looked into along paths of names (`Json.at?`).  A value that is inserted stands at its
path, and every path that neither leads there nor on from there keeps what it had
(`at?_insertAt`, `at?_insertAt_of_apart`).  Where a mapping is laid over another, what the upper one holds
at a path is laid over what the lower one holds there (`at?_overlay`), so a value of it that is no mapping
is seen (`at?_overlay_upper`); and what the lower one holds is seen where the upper one holds nothing in
its place or above (`at?_overlay_of_none`, `at?_overlay_lower`).
-/

namespace Scaffold

namespace Json

/-- What stands **at a path** of names, one level after the other. -/
def at? : Json → List String → Option Json
  | v, [] => some v
  | v, key :: path => (v.member? key).bind (at? · path)

variable {v w : Json} {fs : Fields} {key : String} {path : List String}

@[simp] theorem at?_nil (v : Json) : v.at? [] = some v := rfl

@[simp] theorem at?_cons (v : Json) (key : String) (path : List String) :
    v.at? (key :: path) = (v.member? key).bind (at? · path) := rfl

/-- Of fields, a path looks into the value **under its first name**. -/
theorem at?_obj_cons : (obj fs).at? (key :: path) = (Fields.get? fs key).bind (at? · path) := rfl

/-- Only in a mapping does something stand **behind a name**. -/
theorem exists_fields_of_at? (h : v.at? (key :: path) = some w) :
    ∃ fs u, v = .obj fs ∧ Fields.get? fs key = some u ∧ u.at? path = some w := by
  obtain ⟨u, hmember, hu⟩ := Option.bind_eq_some_iff.mp h
  obtain ⟨fs, rfl, hfs⟩ := exists_fields_of_member? hmember
  exact ⟨fs, u, rfl, hfs, hu⟩

/-- One name leads to what is **under it**. -/
theorem at?_singleton : (obj fs).at? [key] = Fields.get? fs key := by
  rw [at?_obj_cons]
  exact Option.bind_fun_some _

/-- A path is followed **in two parts**. -/
theorem at?_append (more : List String) : ∀ (path : List String) (v : Json),
    v.at? (path ++ more) = (v.at? path).bind (at? · more)
  | [], _ => rfl
  | key :: path, v => by
    rw [List.cons_append, at?_cons, at?_cons, Option.bind_assoc]
    exact congrArg _ (funext (at?_append more path))

/-- Behind what holds no mapping there is **nothing**. -/
theorem bind_at?_of_not {old : Option Json} (h : ∀ inner, old ≠ some (.obj inner)) :
    old.bind (at? · (key :: path)) = none := by
  refine Option.bind_eq_none_iff.mpr fun b hb => ?_
  cases hat : b.at? (key :: path) with
  | none => rfl
  | some w =>
    obtain ⟨inner, -, rfl, -⟩ := exists_fields_of_at? hat
    exact absurd hb (h inner)

/-- Only a mapping **is one**. -/
theorem isObject_eq_true : v.isObject = true ↔ ∃ fs, v = .obj fs := by
  cases v <;> simp [isObject]

/-- A value that is no mapping stands **behind names**. -/
theorem ne_nil_of_at? (hv : v.isObject = false) (h : (obj fs).at? path = some v) : path ≠ [] := by
  rintro rfl
  obtain rfl := Option.some.inj h
  simp [isObject] at hv

/-- Along its first name a path finds the value that was **inserted** there. -/
theorem at?_insert_self : (obj (Fields.insert fs key v)).at? (key :: path) = v.at? path := by
  rw [at?_obj_cons, Fields.get?_insert_self, Option.bind_some]

/-- Along another name a path finds **what was there**. -/
theorem at?_insert_of_ne {other : String} (h : key ≠ other) :
    (obj (Fields.insert fs key v)).at? (other :: path) = (obj fs).at? (other :: path) := by
  rw [at?_obj_cons, at?_obj_cons, Fields.get?_insert_of_ne _ _ _ _ h]

end Json

namespace Arguments

open Json

/-- Paths are **comparable** if one leads to the other: they are equal, or one is an ancestor of the
other. -/
def Comparable (p q : List String) : Prop := p <+: q ∨ q <+: p

instance (p q : List String) : Decidable (Comparable p q) :=
  inferInstanceAs (Decidable (p <+: q ∨ q <+: p))

theorem comparable_cons {key : String} {p q : List String} :
    Comparable (key :: p) (key :: q) ↔ Comparable p q := by
  simp [Comparable]

/-- A path that is comparable with no path of names **has names**. -/
theorem exists_cons_of_apart {p q : List String} (h : ¬Comparable p q) :
    ∃ key rest, q = key :: rest := by
  cases q with
  | nil => exact absurd (Or.inr List.nil_prefix) h
  | cons key rest => exact ⟨key, rest, rfl⟩

/-! ## Inserting at a path -/

variable {context left : Context} {value v : Json} {path : List String}

/-- **Inserting below a name** inserts into the mapping there, an empty one if there is none. -/
theorem insertAt_cons {head next : String} {rest : List String}
    (h : insertAt context value (head :: next :: rest) = .ok left) :
    ∃ inner inserted, (Fields.get? context head).getD (.obj []) = .obj inner ∧
      insertAt inner value (next :: rest) = .ok inserted ∧
      left = Fields.insert context head (.obj inserted) := by
  rw [insertAt] at h
  split at h
  · next inner hinner =>
    cases hrest : insertAt inner value (next :: rest) with
    | error e => simp [hrest, Except.map] at h
    | ok inserted =>
      rw [hrest] at h
      exact ⟨inner, inserted, hinner, hrest, (Except.ok.inj h).symm⟩
  · simp at h

/-- **A value that is inserted** stands at its path. -/
theorem at?_insertAt : ∀ {path : List String} {context left : Context}, path ≠ [] →
    insertAt context value path = .ok left → (obj left).at? path = some value
  | [], _, _, hne, _ => absurd rfl hne
  | [key], context, left, _, h => by
    obtain rfl := Except.ok.inj h
    exact at?_insert_self
  | head :: next :: rest, context, left, _, h => by
    obtain ⟨inner, inserted, -, hrest, rfl⟩ := insertAt_cons h
    rw [at?_insert_self]
    exact at?_insertAt (List.cons_ne_nil _ _) hrest

/-- **Paths apart** from that of the inserted value keep what they had. -/
theorem at?_insertAt_of_apart : ∀ {keys path : List String} {context left : Context},
    insertAt context value keys = .ok left → ¬Comparable keys path →
      (obj left).at? path = (obj context).at? path
  | [], path, _, _, _, happart => absurd (Or.inl List.nil_prefix) happart
  | [key], path, context, left, h, happart => by
    obtain rfl := Except.ok.inj h
    obtain ⟨other, rest, rfl⟩ := exists_cons_of_apart happart
    refine at?_insert_of_ne ?_
    rintro rfl
    exact happart (comparable_cons.mpr (Or.inl List.nil_prefix))
  | head :: next :: tail, path, context, left, h, happart => by
    obtain ⟨inner, inserted, hinner, hrest, rfl⟩ := insertAt_cons h
    obtain ⟨other, rest, rfl⟩ := exists_cons_of_apart happart
    by_cases hne : head = other
    · subst hne
      rw [comparable_cons] at happart
      rw [at?_insert_self, at?_insertAt_of_apart hrest happart, at?_obj_cons]
      cases hget : Fields.get? context head with
      | some w =>
        rw [hget, Option.getD_some] at hinner
        rw [hinner, Option.bind_some]
      | none =>
        -- the mapping is made on the way, and empty but for the new path
        rw [hget, Option.getD_none] at hinner
        obtain rfl : [] = inner := Json.obj.inj hinner
        obtain ⟨key, rest, rfl⟩ := exists_cons_of_apart happart
        rfl
    · exact at?_insert_of_ne hne

/-! ## Laying one mapping over another -/

/-- What is **under a name** once a mapping is laid over another. -/
theorem get?_overlay {key : String} : ∀ {update : List (String × Json)} {base : Fields},
    (update.map Prod.fst).Nodup → Fields.get? (overlay base update) key =
      match Fields.get? update key with
      | some w => some (overlayValue (Fields.get? base key) w)
      | none => Fields.get? base key
  | [], base, _ => by rw [overlay]; rfl
  | (k, w) :: update, base, h => by
    rw [List.map_cons, List.nodup_cons] at h
    rw [overlay, get?_overlay h.2, Fields.get?]
    by_cases hk : k = key
    · subst hk
      rw [Fields.get?_eq_none.mpr h.1, if_pos rfl, Fields.get?_insert_self]
    · rw [if_neg hk, Fields.get?_insert_of_ne _ _ _ _ hk]

/-- A value that is **no mapping** covers whatever it is laid over. -/
theorem overlayValue_of_not_object (h : v.isObject = false) (old : Option Json) :
    overlayValue old v = v := by
  cases v with
  | obj fs => simp [isObject] at h
  | null => rw [overlayValue]; simp
  | bool b => rw [overlayValue]; simp
  | num n => rw [overlayValue]; simp
  | str s => rw [overlayValue]; simp
  | arr items => rw [overlayValue]; simp

/-- A mapping laid over a mapping is **merged** with it. -/
theorem overlayValue_object (inner fs : Fields) :
    overlayValue (some (.obj inner)) (.obj fs) = .obj (overlay inner fs) := by
  rw [overlayValue]

/-- A mapping laid over anything else **covers** it. -/
theorem overlayValue_object_of_not {old : Option Json} {fs : Fields}
    (h : ∀ inner, old ≠ some (.obj inner)) : overlayValue old (.obj fs) = .obj fs := by
  rw [overlayValue]
  exact h

/-- Laid over nothing, a value **stays**. -/
theorem overlayValue_none (v : Json) : overlayValue none v = v := by
  cases hv : v.isObject with
  | false => exact overlayValue_of_not_object hv none
  | true =>
    obtain ⟨fs, rfl⟩ := isObject_eq_true.mp hv
    exact overlayValue_object_of_not nofun

/-- **At a path** of the upper layer, what stands there is laid over what stands there in the lower
one. -/
theorem at?_overlay : ∀ {path : List String} {base update : Fields}, path ≠ [] →
    (obj update).Ordered → (obj update).at? path = some v →
      (obj (overlay base update)).at? path = some (overlayValue ((obj base).at? path) v)
  | [], _, _, hne, _, _ => absurd rfl hne
  | [key], base, update, _, hordered, h => by
    rw [at?_singleton] at h ⊢
    rw [at?_singleton, get?_overlay hordered.nodup, h]
  | key :: next :: path, base, update, _, hordered, h => by
    rw [at?_obj_cons] at h
    obtain ⟨w, hget, hw⟩ := Option.bind_eq_some_iff.mp h
    obtain ⟨fs, -, rfl, -⟩ := exists_fields_of_at? hw
    rw [at?_obj_cons, at?_obj_cons, get?_overlay hordered.nodup, hget]
    simp only [Option.bind_some]
    by_cases hold : ∃ inner, Fields.get? base key = some (.obj inner)
    · obtain ⟨inner, hinner⟩ := hold
      rw [hinner, overlayValue_object, Option.bind_some]
      exact at?_overlay (List.cons_ne_nil _ _) (hordered.get? hget) hw
    · have hnot := not_exists.mp hold
      rw [overlayValue_object_of_not hnot, bind_at?_of_not hnot, overlayValue_none]
      exact hw

/-- **Where the upper layer holds nothing**, and no value above that is no mapping, the lower one is left
as it is. -/
theorem at?_overlay_of_none : ∀ {path : List String} {base update : Fields},
    (obj update).Ordered → (obj update).at? path = none →
      (∀ p w, p <+: path → (obj update).at? p = some w → w.isObject = true) →
        (obj (overlay base update)).at? path = (obj base).at? path
  | [], _, _, _, hnone, _ => nomatch hnone
  | key :: path, base, update, hordered, hnone, habove => by
    rw [at?_obj_cons] at hnone
    rw [at?_obj_cons, at?_obj_cons, get?_overlay hordered.nodup]
    cases hget : Fields.get? update key with
    | none => rfl
    | some w =>
      rw [hget, Option.bind_some] at hnone
      obtain ⟨fs, rfl⟩ : ∃ fs, w = .obj fs := by
        refine isObject_eq_true.mp (habove [key] w (by simp) ?_)
        rw [at?_singleton, hget]
      have hbehind : ∀ p u, p <+: path → (obj fs).at? p = some u → u.isObject = true := by
        intro p u hp hu
        refine habove (key :: p) u (by simpa using hp) ?_
        rw [at?_obj_cons, hget]
        exact hu
      simp only [Option.bind_some]
      by_cases hold : ∃ inner, Fields.get? base key = some (.obj inner)
      · obtain ⟨inner, hinner⟩ := hold
        rw [hinner, overlayValue_object, Option.bind_some]
        exact at?_overlay_of_none (hordered.get? hget) hnone hbehind
      · -- The mapping covers what is below, and behind no other value does anything stand.
        have hnot := not_exists.mp hold
        cases path with
        | nil => exact nomatch hnone
        | cons next path => rw [overlayValue_object_of_not hnot, hnone, bind_at?_of_not hnot]

/-- **The upper layer is seen**: a value of it that is no mapping stands where it stood. -/
theorem at?_overlay_upper {path : List String} {base update : Fields} (hordered : (obj update).Ordered)
    (hv : v.isObject = false) (h : (obj update).at? path = some v) :
    (obj (overlay base update)).at? path = some v := by
  rw [at?_overlay (ne_nil_of_at? hv h) hordered h, overlayValue_of_not_object hv]

/-- **The lower layer is seen** where the upper one holds nothing, and no value above that is no
mapping. -/
theorem at?_overlay_lower {path : List String} {base update : Fields} (hordered : (obj update).Ordered)
    (h : (obj base).at? path = some v) (hnone : (obj update).at? path = none)
    (habove : ∀ p w, p <+: path → (obj update).at? p = some w → w.isObject = true) :
    (obj (overlay base update)).at? path = some v :=
  (at?_overlay_of_none hordered hnone habove).trans h

end Arguments

end Scaffold
