import Mathlib.Data.List.Induction
import Mathlib.Data.List.Nodup
import Scaffold.Builtin.Recipes

/-!
# Proofs/Registry/Log — a registry is determined by its log

A registry is built by registering extensions one after the other, and the **log** of these registrations
says all about it.  A registration changes what is under its own name, and lists that name at the end of
its group unless it is listed already (`find?_register`, `names_register`).  So under a name is what was
registered there last (`find?_ofLog`), and a group lists the names registered in it in the order in which
they first were (`names_ofLog`).  A name is listed just where it is found (`mem_names_iff`), and a recipe
that is not found is refused with the names that are listed (`determined_by_log`).
-/

namespace Scaffold

namespace Registry

variable {α β : Type}

/-! ## Entries under keys -/

/-- Under a key that was just set is **its value**; nothing changes under another one. -/
theorem get?_put (key k : String) (v : β) : ∀ es : List (String × β),
    get? (put es k v) key = if k = key then some v else get? es key
  | [] => rfl
  | (k', w) :: es => by
    have ih := get?_put key k v es
    rw [put]
    split_ifs with hk hkey hkey
    · rw [get?, if_pos (hk.trans hkey)]
    · have hkey' : k' ≠ key := hk ▸ hkey
      rw [get?, get?, if_neg hkey', if_neg hkey']
    · rw [get?, if_neg (hkey ▸ hk), ih, if_pos hkey]
    · rw [get?, get?, ih, if_neg hkey]

/-- A key that is set **keeps its place**, or comes last. -/
theorem keys_put (k : String) (v : β) : ∀ es : List (String × β),
    (put es k v).map Prod.fst =
      if k ∈ es.map Prod.fst then es.map Prod.fst else es.map Prod.fst ++ [k]
  | [] => rfl
  | (k', w) :: es => by
    have ih := keys_put k v es
    rw [put]
    by_cases hk : k' = k
    · simp [hk]
    · have hk' : k ≠ k' := Ne.symm hk
      simp only [if_neg hk, List.map_cons, ih, List.mem_cons, hk', false_or]
      split_ifs <;> rfl

/-- There is something under **the keys**, and nowhere else. -/
theorem isSome_get? (key : String) : ∀ es : List (String × β),
    (get? es key).isSome = true ↔ key ∈ es.map Prod.fst
  | [] => by simp [get?]
  | (k, v) :: es => by
    rw [get?, List.map_cons, List.mem_cons]
    split_ifs with hk
    · simp [hk]
    · rw [isSome_get? key es, or_iff_right (Ne.symm hk)]

/-! ## One registration -/

variable (r : Registry α) (group name : String)

/-- The **entries** of a group. -/
def entries : List (String × α) := (get? r.groups group).getD []

/-- What is found in a group is **among its entries**. -/
theorem find?_eq_get? : r.find? group name = get? (r.entries group) name := by
  rw [find?, entries]
  cases get? r.groups group <;> rfl

/-- The names of a group are **the keys of its entries**. -/
theorem names_eq_keys : r.names group = (r.entries group).map Prod.fst := rfl

/-- Registering sets an entry **of its group**, and leaves the other groups as they are. -/
theorem entries_register (g n : String) (e : α) : (r.register g n e).entries group =
    if g = group then put (r.entries group) n e else r.entries group := by
  rw [entries, register, get?_put]
  split_ifs with hg
  · rw [Option.getD_some, entries, hg]
  · rfl

/-- **Registering** answers for its own name alone. -/
theorem find?_register (g n : String) (e : α) : (r.register g n e).find? group name =
    if g = group ∧ n = name then some e else r.find? group name := by
  rw [find?_eq_get?, entries_register, find?_eq_get?]
  by_cases hg : g = group
  · rw [if_pos hg, get?_put]
    simp only [hg, true_and]
  · rw [if_neg hg, if_neg fun h => hg h.1]

/-- **Registering** lists its name at the end of its group, unless it is listed there already. -/
theorem names_register (g n : String) (e : α) : (r.register g n e).names group =
    if g = group ∧ n ∉ r.names group then r.names group ++ [n] else r.names group := by
  rw [names_eq_keys, entries_register, names_eq_keys]
  by_cases hg : g = group
  · rw [if_pos hg, keys_put]
    by_cases hn : n ∈ (r.entries group).map Prod.fst
    · rw [if_pos hn, if_neg fun h => h.2 hn]
    · rw [if_neg hn, if_pos ⟨hg, hn⟩]
  · rw [if_neg hg, if_neg fun h => hg h.1]

/-- A name is **listed just where it is found**. -/
theorem mem_names_iff : name ∈ r.names group ↔ (r.find? group name).isSome = true := by
  rw [find?_eq_get?, isSome_get?, names_eq_keys]

/-! ## The log -/

end Registry

/-- A **registration** of an extension under a name of a group. -/
structure Registration (α : Type) where
  group : String
  name : String
  extension : α

namespace Registry

variable {α : Type}

/-- The registry that some registrations **build** from nothing, one after the other. -/
def ofLog (log : List (Registration α)) : Registry α :=
  log.foldl (fun r x => r.register x.group x.name x.extension) empty

/-- What a log registers **last** under a name of a group. -/
def last? (log : List (Registration α)) (group name : String) : Option α :=
  ((log.filter fun x => x.group = group ∧ x.name = name).getLast?).map Registration.extension

/-- The names that a log registers in a group, **as often** as it does. -/
def registered (log : List (Registration α)) (group : String) : List String :=
  (log.filter (·.group = group)).map Registration.name

variable (log : List (Registration α)) (x : Registration α) (group name : String)

/-- One more registration is **made at the end**. -/
theorem ofLog_append_singleton :
    ofLog (log ++ [x]) = (ofLog log).register x.group x.name x.extension := by
  rw [ofLog, List.foldl_append]
  rfl

/-- One more registration is **the last** under its name. -/
theorem last?_append_singleton : last? (log ++ [x]) group name =
    if x.group = group ∧ x.name = name then some x.extension else last? log group name := by
  rw [last?, List.filter_append]
  split_ifs with hx
  · simp [hx]
  · simp [hx, last?]

/-- One more registration registers **one more name** of its group. -/
theorem registered_append_singleton : registered (log ++ [x]) group =
    if x.group = group then registered log group ++ [x.name] else registered log group := by
  rw [registered, List.filter_append, List.map_append]
  split_ifs with hx
  · simp [hx, registered]
  · simp [hx, registered]

/-- **Under a name** is what was registered there last. -/
theorem find?_ofLog : (ofLog log).find? group name = last? log group name := by
  induction log using List.reverseRecOn with
  | nil => rfl
  | append_singleton log x ih =>
    rw [ofLog_append_singleton, find?_register, ih, last?_append_singleton]

/-- **The names of a group** are those registered in it, each where it was first. -/
theorem names_ofLog : (ofLog log).names group = (registered log group).eraseDups := by
  induction log using List.reverseRecOn with
  | nil => rfl
  | append_singleton log x ih =>
    rw [ofLog_append_singleton, names_register, ih, registered_append_singleton]
    by_cases hx : x.group = group
    · rw [if_pos hx, List.eraseDups_append]
      by_cases hn : x.name ∈ registered log group
      · simp [hn, List.removeAll]
      · simp [hx, hn, List.removeAll, List.eraseDups_cons]
    · rw [if_neg hx, if_neg fun h => hx h.1]

/-- A group lists **each name once**. -/
theorem nodup_names_ofLog : ((ofLog log).names group).Nodup := by
  induction log using List.reverseRecOn with
  | nil => exact List.nodup_nil
  | append_singleton log x ih =>
    rw [ofLog_append_singleton, names_register]
    split_ifs with hx
    · exact List.concat_eq_append ▸ List.Nodup.concat hx.2 ih
    · exact ih

/-- What is **loaded** is what was registered last; a name that never was is warned about. -/
theorem load_ofLog : (ofLog log).load group name = match last? log group name with
    | some extension => (some extension, [])
    | none => (none, [missingText group name]) := by
  cases hlast : last? log group name <;> simp [load, find?_ofLog, hlast]

end Registry

namespace Recipe

variable {registry : Registry RecipeDefinition} {key : String}

/-- **A definition that is found** builds the recipe and shows its parameters, without a warning. -/
theorem load_inspect_of_find? {c : RecipeDefinition} (h : registry.find? recipeGroup key = some c)
    (given : Fields) (i : Inspection) :
    load registry key given =
        ((c.recipeOf given).map fun r => { r with extensionName := key }, []) ∧
      inspect registry key i = (.ok ((c.parameters.filter i.shows).map Parameter.expanded), []) := by
  have hlookup : lookup registry key = (.ok c, []) := by rw [lookup, Registry.load, h]
  constructor
  · rw [load, hlookup]
  · rw [inspect, hlookup]

/-- **A name that is not found** is refused, with the names that are there and a warning. -/
theorem load_inspect_of_unknown (h : registry.find? recipeGroup key = none) (given : Fields)
    (i : Inspection) :
    load registry key given = (.error (.recipeNotFound key (registry.names recipeGroup)),
        [Registry.missingText recipeGroup key]) ∧
      inspect registry key i = (.error (.recipeNotFound key (registry.names recipeGroup)),
        [Registry.missingText recipeGroup key]) := by
  have hlookup : lookup registry key = (.error (.recipeNotFound key (registry.names recipeGroup)),
      [Registry.missingText recipeGroup key]) := by rw [lookup, Registry.load, h]
  constructor
  · rw [load, hlookup]
  · rw [inspect, hlookup]

end Recipe

namespace Registry

/-- **A registry is determined by its log.**  Under a name is what was registered there last, or there is
a warning.  A group lists the names registered in it in the order they first were, each once; one more
registration adds its name to its own group, if it is new, and changes no other list.  A name is listed just
where it is found.  Of a registry of recipes, loading and inspecting use the definition that was registered
last, and refuse all other names with the list. -/
theorem determined_by_log {α : Type} (log : List (Registration α))
    (definitions : List (Registration RecipeDefinition)) :
    (∀ group name, (ofLog log).load group name = match last? log group name with
      | some extension => (some extension, [])
      | none => (none, [missingText group name])) ∧
    (∀ group, (ofLog log).names group = (registered log group).eraseDups ∧
      ((ofLog log).names group).Nodup ∧
      ∀ x, (ofLog (log ++ [x])).names group =
        if x.group = group ∧ x.name ∉ (ofLog log).names group
          then (ofLog log).names group ++ [x.name] else (ofLog log).names group) ∧
    (∀ group name, name ∈ (ofLog log).names group ↔
      ((ofLog log).load group name).1.isSome = true) ∧
    ∀ key given i, match last? definitions recipeGroup key with
      | some c => key ∈ (ofLog definitions).names recipeGroup ∧
        Recipe.load (ofLog definitions) key given =
          ((c.recipeOf given).map fun r => { r with extensionName := key }, []) ∧
        Recipe.inspect (ofLog definitions) key i =
          (.ok ((c.parameters.filter i.shows).map Parameter.expanded), [])
      | none => key ∉ (ofLog definitions).names recipeGroup ∧
        Recipe.load (ofLog definitions) key given =
          (.error (.recipeNotFound key ((registered definitions recipeGroup).eraseDups)),
            [missingText recipeGroup key]) ∧
        Recipe.inspect (ofLog definitions) key i =
          (.error (.recipeNotFound key ((registered definitions recipeGroup).eraseDups)),
            [missingText recipeGroup key]) := by
  refine ⟨load_ofLog log, fun group => ⟨names_ofLog log group, nodup_names_ofLog log group, fun x => ?_⟩,
    fun group name => ?_, fun key given i => ?_⟩
  · rw [ofLog_append_singleton, names_register]
  · rw [mem_names_iff, find?_ofLog, load_ofLog]
    cases last? log group name <;> rfl
  · have hfind := find?_ofLog definitions recipeGroup key
    rw [← names_ofLog, mem_names_iff, hfind]
    cases hlast : last? definitions recipeGroup key with
    | some c => exact ⟨rfl, Recipe.load_inspect_of_find? (hfind.trans hlast) given i⟩
    | none =>
      exact ⟨Bool.false_ne_true, Recipe.load_inspect_of_unknown (hfind.trans hlast) given i⟩

/-- The built-in recipes are listed in the order they are registered in. -/
example (year : Int) : (RecipeDefinition.builtin year).names recipeGroup =
    ["python_package", "python_api", "recipe"] := rfl

end Registry

end Scaffold
