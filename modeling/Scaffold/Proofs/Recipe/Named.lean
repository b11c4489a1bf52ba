import Scaffold.CommandLine.Run
import Scaffold.Proofs.Builtin.Load

/-!
# Proofs/Recipe/Named — recipes have the name they are asked for

A recipe is built for a name, and its root folder is created under it.  That holds of every recipe
of a built-in kind (`Kind.Built.isNamed`), of one that is loaded with a name among its arguments
(`isNamed_of_load`), and of the one that a request comes to (`isNamed_of_recipeNamed`).
-/

namespace Scaffold

/-- The recipe and its root folder **have a name**. -/
structure Recipe.IsNamed (r : Recipe) (name : String) : Prop where
  recipe : r.name = name
  root : r.root.name = .literal name

/-- A recipe **built** from settings has the name of their repository. -/
theorem Builtin.Kind.Built.isNamed {k : Builtin.Kind} {s : Builtin.Settings} {r : Recipe}
    (h : k.Built s r) : r.IsNamed s.repository.name := ⟨h.name, h.root⟩

namespace Recipe

/-- A recipe that is **loaded** with a name among its arguments has that name. -/
theorem isNamed_of_load {year : Int} {key name : String} {given : Fields} {r : Recipe}
    (h : (load (RecipeDefinition.builtin year) key (Fields.insert given "name" (.str name))).1 =
      .ok r) : r.IsNamed name := by
  obtain ⟨k, s, -, hname, hbuilt⟩ := exists_built_of_load h
  rw [RecipeDefinition.nameOf, Fields.get?_insert_self] at hname
  obtain rfl : name = s.repository.name := Except.ok.inj hname
  exact hbuilt.isNamed

end Recipe

namespace CommandLine

/-- **The recipe of a request** has the name it is built for. -/
theorem isNamed_of_recipeNamed {s : Session} {d : Disk} {q : RecipeRequest} {name : String}
    {r : Recipe} (h : (recipeNamed s d q name).1 = .ok r) : r.IsNamed name := by
  rw [recipeNamed] at h
  split at h
  · simp at h
  split at h
  · simp at h
  split at h
  · simp at h
  next given _ =>
  rcases hload : (Recipe.load s.recipes q.recipe (Fields.insert given "name" (.str name))).1 with
    e | r₀
  · simp [hload, Except.map] at h
  · simp only [hload] at h
    obtain rfl := Except.ok.inj h
    have hnamed := Recipe.isNamed_of_load hload
    exact ⟨hnamed.recipe, hnamed.root⟩

/-- **A recipe that is built** has the name of the repository. -/
theorem buildRecipe_eq_ok {s : Session} {d : Disk} {q : RecipeRequest} {r : Recipe}
    (h : (buildRecipe s d q).1 = .ok r) :
    ∃ name, (repositoryName s d q).1 = .ok name ∧ r.IsNamed name := by
  rw [buildRecipe] at h
  rcases hname : repositoryName s d q with ⟨e | name, warnings⟩
  · simp [hname] at h
  · simp only [hname] at h
    exact ⟨name, rfl, isNamed_of_recipeNamed h⟩

/-- Under strict rules a repository has a name that **passes**, the one its rules make of what was
asked for. -/
theorem repositoryName_of_strict {s : Session} {d : Disk} {q : RecipeRequest} {rules : Naming}
    {name : String} (hrules : s.config.rules d = .ok (some rules))
    (hstrict : q.naming.getD s.config.naming = .strict)
    (h : (repositoryName s d q).1 = .ok name) :
    name = rules.repoName q.name ∧ (rules.check q.name).passes = true := by
  simp only [repositoryName, hrules, hstrict, Naming.enforce] at h
  cases hcheck : rules.check q.name <;> simp_all [Naming.Verdict.passes]

end CommandLine

end Scaffold
