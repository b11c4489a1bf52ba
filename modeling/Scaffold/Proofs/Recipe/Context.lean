import Scaffold.Proofs.Json.Members
import Scaffold.Proofs.Json.Order
import Scaffold.Recipe.Basic

/-!
# Proofs/Recipe/Context — what a context is made of

A context has what a recipe declares, but for what says how the recipe is built, and what the recipe says
of itself (`Recipe.get?_context`).  Its names are in order if those of what is declared are
(`Recipe.pairwise_context`), and stay so under whatever is laid over it.  What has all its names and is
laid over it is all that remains (`Fields.merge_eq_of_subset`).
-/

namespace Scaffold

/-! ## Laying fields over others -/

namespace Fields

variable {fs extra : Fields} {key name : String} {v : Json}

/-- An insertion adds **one name**. -/
theorem mem_names_insert : key ∈ (insert fs name v).map Prod.fst ↔ key = name ∨ key ∈ fs.map Prod.fst := by
  by_cases hkey : name = key
  · subst hkey
    have hfound : name ∈ (insert fs name v).map Prod.fst :=
      List.mem_map_of_mem (mem_of_get? (get?_insert_self fs name v))
    simp [hfound]
  · rw [← not_iff_not, ← get?_eq_none, get?_insert_of_ne _ _ _ _ hkey, get?_eq_none, not_or]
    exact ⟨fun h => ⟨Ne.symm hkey, h⟩, fun h => h.2⟩

/-- Fields that are laid over others add **their names**. -/
theorem mem_names_merge : ∀ {extra fs : Fields},
    key ∈ (merge fs extra).map Prod.fst ↔ key ∈ fs.map Prod.fst ∨ key ∈ extra.map Prod.fst
  | [], fs => by
    rw [List.map_nil, or_iff_left List.not_mem_nil]
    rfl
  | (k, v) :: extra, fs => by
    have hrest : key ∈ (merge (insert fs k v) extra).map Prod.fst ↔
        key ∈ (insert fs k v).map Prod.fst ∨ key ∈ extra.map Prod.fst := mem_names_merge
    rw [mem_names_insert] at hrest
    rw [List.map_cons, List.mem_cons, ← or_assoc, or_comm (a := key ∈ fs.map Prod.fst)]
    exact hrest

/-- Fields are laid over others **one after the other**. -/
theorem merge_append (fs more rest : Fields) : merge fs (more ++ rest) = merge (merge fs more) rest :=
  List.foldl_append

/-- Fields that are laid over others are found **first**. -/
theorem get?_merge (hextra : (extra.map Prod.fst).Nodup) :
    get? (merge fs extra) key = (get? extra key).orElse fun _ => get? fs key := by
  cases hkey : get? extra key with
  | none => exact get?_insertAll_of_not_mem (get?_eq_none.mp hkey)
  | some v => exact get?_insertAll_of_mem hextra (mem_of_get? hkey)

/-- Fields that have **all names** of those they are laid over are all that remains. -/
theorem merge_eq_of_subset (hfs : (fs.map Prod.fst).Pairwise (· < ·))
    (hextra : (extra.map Prod.fst).Pairwise (· < ·)) (h : fs.map Prod.fst ⊆ extra.map Prod.fst) :
    merge fs extra = extra := by
  refine ext_of_pairwise (pairwise_insertAll extra hfs) hextra fun key => ?_
  rw [get?_merge (nodup_of_pairwise hextra)]
  cases hkey : get? extra key with
  | some v => rfl
  | none => exact get?_eq_none.mpr fun hmem => get?_eq_none.mp hkey (h hmem)

end Fields

namespace Recipe

variable {r : Recipe} {context fs : Fields} {key : String} {v : Json}

/-! ## The context of a recipe -/

/-- **The context** of a recipe has the fields it declares, but for what says how the recipe is built, and
what the recipe says of itself. -/
theorem context_eq_ok : r.context = .ok context ↔ ∃ fs, fieldsOf r.declared = .ok fs ∧
    context = Fields.insert (fs.filter fun f => !structural.contains f.1) "recipe" r.info.toJson := by
  rw [Recipe.context]
  cases fieldsOf r.declared <;> simp [Except.map, eq_comm]

/-- With nothing laid over it, a context **stays as it is**. -/
theorem combined_nil : r.combined [] = r.context := by
  rw [combined]
  cases r.context <;> rfl

/-- Declared data that counts as fields has **them as members**. -/
theorem member?_of_fieldsOf (h : fieldsOf v = .ok fs) : v.member? key = Fields.get? fs key := by
  cases v with
  | obj gs =>
    obtain rfl := Except.ok.inj h
    rfl
  | null =>
    obtain rfl := Except.ok.inj h
    rfl
  | bool b => exact nomatch h
  | num n => exact nomatch h
  | str s => exact nomatch h
  | arr items => exact nomatch h

/-- The context of a recipe has what is **declared**, unless it says how the recipe is built. -/
theorem get?_context (h : r.context = .ok context) (hkey : structural.contains key = false) :
    Fields.get? context key = r.declared.member? key := by
  obtain ⟨fs, hfs, rfl⟩ := context_eq_ok.mp h
  have hrecipe : "recipe" ≠ key := by
    rintro rfl
    simp [structural] at hkey
  have hkept : ∀ w, (!structural.contains ((key, w) : String × Json).1) = true := fun w => by
    rw [hkey, Bool.not_false]
  rw [Fields.get?_insert_of_ne _ _ _ _ hrecipe, Fields.get?_filter hkept, member?_of_fieldsOf hfs]

/-- Data that is declared in order makes **fields in order**. -/
theorem pairwise_of_fieldsOf (hv : v.Ordered) (h : fieldsOf v = .ok fs) :
    (fs.map Prod.fst).Pairwise (· < ·) := by
  cases hv with
  | null =>
    obtain rfl := Except.ok.inj h
    exact List.Pairwise.nil
  | obj hkeys _ =>
    obtain rfl := Except.ok.inj h
    exact hkeys
  | bool => exact nomatch h
  | num => exact nomatch h
  | str => exact nomatch h
  | arr => exact nomatch h

/-- The names of a context are **in order** if those of what is declared are. -/
theorem pairwise_context (hdeclared : r.declared.Ordered) (h : r.context = .ok context) :
    (context.map Prod.fst).Pairwise (· < ·) := by
  obtain ⟨fs, hfs, rfl⟩ := context_eq_ok.mp h
  have hordered := pairwise_of_fieldsOf hdeclared hfs
  exact Fields.pairwise_insert (hordered.sublist (List.filter_sublist.map _))

end Recipe

end Scaffold
