import Scaffold.Builtin.Recipes

/-!
# Proofs/Builtin/Load — what the built-in recipes are built from

A recipe that a built-in kind has built comes from settings (`Kind.Built`): it has the name of their
repository, the layout of the kind, the data of the settings, and the renderer of the library.  So
does every recipe that is loaded from the built-in registry, under the name among its arguments
(`exists_built_of_load`).
-/

namespace Scaffold

/-- What is found under a key is **held** under it. -/
theorem Registry.mem_of_get? {β : Type} {key : String} {e : β} :
    ∀ {es : List (String × β)}, Registry.get? es key = some e → (key, e) ∈ es
  | [], h => by simp [Registry.get?] at h
  | (k, x) :: es, h => by
    rw [Registry.get?] at h
    split at h
    · next hk => rw [hk, Option.some.inj h]; exact List.mem_cons_self
    · exact List.mem_cons_of_mem _ (mem_of_get? h)

namespace Builtin.Kind

/-- A recipe of a kind, as it is **built** from settings. -/
structure Built (k : Kind) (s : Settings) (r : Recipe) : Prop where
  checked : s.repository.check = .ok ()
  name : r.name = s.repository.name
  root : r.root.name = .literal s.repository.name
  contents : r.root.contents = k.layout
  declared : r.declared = s.dump
  renderer : r.renderer = .builtin

variable {k : Kind} {year : Int} {name : String} {given : Fields} {r : Recipe}

/-- A recipe is **built from the same**, whatever its version is and whatever it was asked for by. -/
theorem Built.relabelled {s : Settings} (h : k.Built s r) (version : Option String) (label : String) :
    k.Built s { r with version := version, extensionName := label } :=
  ⟨h.checked, h.name, h.root, h.contents, h.declared, h.renderer⟩

/-- A kind makes a recipe of settings that **pass the check**. -/
theorem built_of_recipe {s : Settings} (h : k.recipe name s = .ok r) : k.Built (s.withName name) r := by
  rw [recipe] at h
  split at h
  · simp at h
  next hcheck =>
  rw [Recipe.of, Folder.of] at h
  split at h
  · simp [Except.map] at h
  · obtain rfl := Except.ok.inj h
    exact ⟨hcheck, rfl, rfl, rfl, rfl, rfl⟩

/-- **A kind** builds recipes from the settings it reads, with the name it is given. -/
theorem exists_decoded_of_build (h : (k.definition year).build name given = .ok r) :
    ∃ s : Settings, Settings.decode year (.obj given) = .ok s ∧ k.Built (s.withName name) r := by
  simp only [definition] at h
  split at h
  · simp at h
  next s hdecode => exact ⟨s, hdecode, built_of_recipe h⟩

end Builtin.Kind

namespace Recipe

/-- **The built-in registry** holds definitions of the built-in kinds. -/
theorem exists_kind_of_find? {year : Int} {key : String} {c : RecipeDefinition}
    (h : (RecipeDefinition.builtin year).find? recipeGroup key = some c) :
    ∃ k : Builtin.Kind, key = k.name ∧ c = k.definition year := by
  have hgroup : Registry.get? (RecipeDefinition.builtin year).groups recipeGroup =
      some ([Builtin.Kind.package, .service, .recipePackage].map
        fun k => (k.name, k.definition year)) := rfl
  rw [Registry.find?, hgroup, Option.bind_some] at h
  obtain ⟨k, -, hk⟩ := List.mem_map.mp (Registry.mem_of_get? h)
  exact ⟨k, (Prod.mk.inj hk).1.symm, (Prod.mk.inj hk).2.symm⟩

/-- A recipe that is **loaded** is built by the kind it is asked for, from the name among the arguments and
the settings that are read from the others. -/
theorem exists_decoded_of_load {year : Int} {key : String} {given : Fields} {r : Recipe}
    (h : (load (RecipeDefinition.builtin year) key given).1 = .ok r) :
    ∃ (k : Builtin.Kind) (name : String) (s : Builtin.Settings), key = k.name ∧
      RecipeDefinition.nameOf given = .ok name ∧ Builtin.Settings.decode year
        (.obj (Fields.erase (Fields.erase given "name") "version")) = .ok s ∧
          k.Built (s.withName name) r := by
  rw [load, lookup, Registry.load] at h
  cases hfind : (RecipeDefinition.builtin year).find? recipeGroup key with
  | none => simp [hfind] at h
  | some c =>
    obtain ⟨k, hkey, rfl⟩ := exists_kind_of_find? hfind
    simp only [hfind, RecipeDefinition.recipeOf] at h
    split at h
    · simp [Except.map] at h
    · simp [Except.map] at h
    next name version hname _ =>
    rcases hbuild : (k.definition year).build name
      (Fields.erase (Fields.erase given "name") "version") with e | r₀
    · simp [hbuild, Except.map] at h
    · rw [hbuild] at h
      obtain rfl := Except.ok.inj h
      obtain ⟨s, hdecode, hbuilt⟩ := Builtin.Kind.exists_decoded_of_build hbuild
      exact ⟨k, name, s, hkey, hname, hdecode, hbuilt.relabelled _ _⟩

/-- A recipe that is **loaded** is built by the kind it is asked for, from settings with the name among
the arguments. -/
theorem exists_built_of_load {year : Int} {key : String} {given : Fields} {r : Recipe}
    (h : (load (RecipeDefinition.builtin year) key given).1 = .ok r) :
    ∃ (k : Builtin.Kind) (s : Builtin.Settings), key = k.name ∧
      RecipeDefinition.nameOf given = .ok s.repository.name ∧ k.Built s r := by
  obtain ⟨k, name, s, hkey, hname, -, hbuilt⟩ := exists_decoded_of_load h
  exact ⟨k, s.withName name, hkey, hname, hbuilt⟩

end Recipe

end Scaffold
