import Scaffold.Proofs.Builtin.Inspected
import Scaffold.Proofs.Recipe.Context

/-!
# Proofs/Builtin/Reloaded — loading again from a context

Each record of the settings is read back from the data it is written as (`Branching.decode_dump`,
`Repository.decode_dump`), whatever follows from it being passed over, so settings are read back from
whatever has their members (`Settings.readFrom_of_dump`).  The context of a recipe has them, and with the
name and the version these are arguments that make the same recipe again (`Recipe.load_arguments`):
however the arguments were written that it was loaded from first, one step brings them to one form.
-/

namespace Scaffold

namespace Decode

variable {α : Type} {fs : Fields} {key : String} {v : Json} {decode : Json → Except DecodeFault α}

/-- A field that must be there is read from **what is under its name**. -/
theorem need_of_get? (h : Fields.get? fs key = some v) : need fs key decode = decode v := by
  rw [need, h]

/-- A field that may be left out is read from what is under its name, **if anything is**. -/
theorem may_of_get? {otherwise : α} (h : Fields.get? fs key = some v) :
    may fs key decode otherwise = decode v := by
  rw [may, h]

/-- An integer that **fits** in 32 bits is read. -/
theorem int32_eq_ok {n : Int} : int32 v = .ok n ↔
    v = .int n ∧ -Int.pow 2 31 ≤ n ∧ n < Int.pow 2 31 := by
  constructor
  · intro h
    unfold int32 at h
    split at h
    · next m =>
      split at h
      · next hm =>
        obtain rfl := Except.ok.inj h
        exact ⟨rfl, hm⟩
      · exact nomatch h
    · exact nomatch h
  · rintro ⟨rfl, hn⟩
    exact if_pos hn

end Decode

/-- The names of an object that is made of pairs are **different**. -/
theorem Fields.nodup_ofPairs (pairs : List (String × Json)) : ((ofPairs pairs).map Prod.fst).Nodup :=
  nodup_of_pairwise (pairwise_insertAll pairs List.Pairwise.nil)

namespace Builtin

open Decode

/-! ## Reading what was written -/

/-- **Branches** are read back. -/
theorem Branching.decode_dump (b : Branching) : decode b.dump = .ok b := by
  have hinitial : b.dump.member? "initial_branch_name" = some (.str b.initialBranch) :=
    Json.member?_object (by simp [declared]) (by simp [declared])
  have hflow : b.dump.member? "git_flow" = some (.bool b.gitFlow) :=
    Json.member?_object (by simp [declared]) (by simp [declared])
  exact (decode_obj (Fields.nodup_ofPairs _)).mpr ⟨may_of_get? hinitial, may_of_get? hflow⟩

/-- **A repository** is read back, but for its name, which is no part of the data. -/
theorem Repository.decode_dump (r : Repository) : decode r.dump = .ok { r with name := "" } := by
  have hseparator : r.dump.member? "repo_separator" = some (.str r.separator) :=
    Json.member?_object (by simp) (by simp)
  have howner : r.dump.member? "owner" = some (.str r.owner) :=
    Json.member?_object (by simp) (by simp)
  have hemail : r.dump.member? "email" = some (.str r.email) :=
    Json.member?_object (by simp) (by simp)
  have hdescription : r.dump.member? "description" = some (.str r.description) :=
    Json.member?_object (by simp) (by simp)
  have hurl : r.dump.member? "url" = some (.str r.url) := Json.member?_object (by simp) (by simp)
  exact (decode_obj (Fields.nodup_ofPairs _)).mpr ⟨may_of_get? hseparator, need_of_get? howner,
    need_of_get? hemail, may_of_get? hdescription, need_of_get? hurl, rfl⟩

/-- A repository that is read has **no name** yet. -/
theorem Repository.name_of_decode {v : Json} {r : Repository} (h : decode v = .ok r) : r.name = "" := by
  simp only [decode, Except.bind_eq_ok] at h
  obtain ⟨_, -, _, -, _, -, _, -, _, -, _, -, hr⟩ := h
  obtain rfl := Except.ok.inj hr
  rfl

/-- **A license**, or none, is read back. -/
theorem decode_license (license : Option License) :
    Decode.optional License.decode (Json.ofOption (license.map License.id)) = .ok license := by
  cases license with
  | none => rfl
  | some l => cases l <;> rfl

namespace Settings

variable {s : Settings} {year : Int} {given : Fields}

/-- The year of a license that is read **fits** in 32 bits, as the one that stands in for it does. -/
theorem fits_of_readFrom (hyear : -Int.pow 2 31 ≤ year ∧ year < Int.pow 2 31)
    (h : ReadFrom year given s) :
    -Int.pow 2 31 ≤ s.licenseYear ∧ s.licenseYear < Int.pow 2 31 := by
  have hread := h.licenseYear
  rw [may] at hread
  split at hread
  · exact (int32_eq_ok.mp hread).2
  · obtain rfl := Except.ok.inj hread
    exact hyear

/-- **Settings are read back** from whatever has the members they are written as, but for the name of the
repository. -/
theorem readFrom_of_dump (hyear : -Int.pow 2 31 ≤ s.licenseYear ∧ s.licenseYear < Int.pow 2 31)
    (h : ∀ key ∈ shape.fields.map Field.key, Fields.get? given key = s.dump.member? key) :
    ReadFrom year given (s.withName "") := by
  have hrepo : Fields.get? given "repo" = some s.repository.dump :=
    (h _ (by decide)).trans (Json.member?_object (by simp) (by simp))
  have hgit : Fields.get? given "git" = some s.branching.dump :=
    (h _ (by decide)).trans (Json.member?_object (by simp) (by simp))
  have hlanguage : Fields.get? given "language" = some (.str s.language) :=
    (h _ (by decide)).trans (Json.member?_object (by simp) (by simp))
  have hlicense : Fields.get? given "license" = some (Json.ofOption (s.license.map License.id)) :=
    (h _ (by decide)).trans (Json.member?_object (by simp) (by simp))
  have hlicenseYear : Fields.get? given "license_year" = some (.int s.licenseYear) :=
    (h _ (by decide)).trans (Json.member?_object (by simp) (by simp))
  exact {
    repository := (need_of_get? hrepo).trans s.repository.decode_dump
    branching := (may_of_get? hgit).trans s.branching.decode_dump
    language := may_of_get? hlanguage
    license := (may_of_get? hlicense).trans (decode_license s.license)
    licenseYear := (may_of_get? hlicenseYear).trans (int32_eq_ok.mpr ⟨rfl, hyear⟩) }

/-- What settings are **written as** is ordered. -/
theorem ordered_dump (s : Settings) : s.dump.Ordered := by
  have hrepo : s.repository.dump.Ordered :=
    Json.ordered_ofPairs (by simp [Json.int, Json.Ordered.str, Json.Ordered.num])
  have hgit : s.branching.dump.Ordered :=
    Json.ordered_ofPairs (by simp [Branching.declared, Json.Ordered.str, Json.Ordered.bool])
  have hlicense : (Json.ofOption (s.license.map License.id)).Ordered := by
    cases s.license with
    | none => exact .null
    | some l => exact .str _
  exact Json.ordered_ofPairs (by
    simp [hrepo, hgit, hlicense, Json.int, Json.Ordered.str, Json.Ordered.num])

/-- Settings that are read, given a name and then **none**, are what was read. -/
theorem withName_of_readFrom (h : ReadFrom year given s) (name : String) :
    (s.withName name).withName "" = s := by
  have hread := h.repository
  rw [need] at hread
  split at hread
  · have hname : s.repository.name = "" := Repository.name_of_decode hread
    rw [withName, withName, ← hname]
  · simp at hread

end Settings

end Builtin

namespace Recipe

open Builtin RecipeDefinition

variable {year : Int} {key : String} {given : Fields} {r : Recipe}

/-! ## Loading again -/

/-- What is looked up under the name of a built-in kind is **its definition**. -/
theorem lookup_builtin (year : Int) (k : Kind) :
    (lookup (RecipeDefinition.builtin year) k.name).1 = .ok (k.definition year) := by
  cases k <;> rfl

/-- **Loading** a built-in recipe is making it of the arguments, and noting what it was asked for by. -/
theorem load_builtin_eq_ok : (load (RecipeDefinition.builtin year) key given).1 = .ok r ↔
    ∃ (k : Kind) (r₀ : Recipe), key = k.name ∧ (k.definition year).recipeOf given = .ok r₀ ∧
      r = { r₀ with extensionName := key } := by
  constructor
  · intro h
    cases hlookup : (lookup (RecipeDefinition.builtin year) key).1 with
    | error e =>
      rw [load] at h
      rcases hfound : lookup (RecipeDefinition.builtin year) key with ⟨x, warnings⟩
      rw [hfound] at hlookup h
      obtain rfl : x = .error e := hlookup
      simp at h
    | ok c =>
      obtain ⟨k, rfl, rfl⟩ := exists_kind_of_lookup hlookup
      rw [load_eq_of_lookup hlookup] at h
      cases hrecipe : (k.definition year).recipeOf given with
      | error e =>
        rw [hrecipe] at h
        simp [Except.map] at h
      | ok r₀ =>
        rw [hrecipe] at h
        exact ⟨k, r₀, rfl, hrecipe, (Except.ok.inj h).symm⟩
  · rintro ⟨k, r₀, rfl, hrecipe, rfl⟩
    rw [load_eq_of_lookup (lookup_builtin year k), hrecipe]
    rfl

/-- The **arguments** a recipe can be loaded from again: a context, with its name and its version. -/
def arguments (r : Recipe) (context : Context) : Fields :=
  Fields.insertAll context [("name", .str r.name), ("version", Json.ofOption r.version)]

/-- **In these arguments** are the name and the version of the recipe, and what it declares. -/
theorem of_arguments {context : Context} (hdeclared : r.declared.Ordered)
    (hcontext : r.context = .ok context) :
    ((r.arguments context).map Prod.fst).Pairwise (· < ·) ∧
      nameOf (r.arguments context) = .ok r.name ∧ versionOf (r.arguments context) = .ok r.version ∧
        ∀ field, structural.contains field = false →
          Fields.get? (r.arguments context) field = r.declared.member? field := by
  have hdistinct : ([("name", .str r.name), ("version", Json.ofOption r.version)].map
      (Prod.fst : String × Json → String)).Nodup := by simp
  have hname : Fields.get? (r.arguments context) "name" = some (.str r.name) :=
    Fields.get?_insertAll_of_mem hdistinct List.mem_cons_self
  have hversion : Fields.get? (r.arguments context) "version" = some (Json.ofOption r.version) :=
    Fields.get?_insertAll_of_mem hdistinct (List.mem_cons_of_mem _ List.mem_cons_self)
  refine ⟨Fields.pairwise_insertAll _ (pairwise_context hdeclared hcontext), ?_, ?_, ?_⟩
  · rw [nameOf, hname]
  · rw [versionOf, hversion]
    cases r.version <;> rfl
  · intro field hfield
    have hother : field ∉ [("name", .str r.name), ("version", Json.ofOption r.version)].map
        (Prod.fst : String × Json → String) := by
      intro hmem
      rcases List.mem_cons.mp hmem with rfl | hmem
      · simp [structural] at hfield
      · obtain rfl := List.mem_singleton.mp hmem
        simp [structural] at hfield
    exact (Fields.get?_insertAll_of_not_mem hother).trans (get?_context hcontext hfield)

/-- **A derived context can be fed back.**  A built-in recipe, loaded from whatever arguments are accepted,
has a context; loading it again from that context, with the name and the version of the recipe, makes the
same recipe, and so the same context.  The year that stands in for the one of the license makes no
difference any more. -/
theorem load_arguments (hyear : -Int.pow 2 31 ≤ year ∧ year < Int.pow 2 31)
    (h : (load (RecipeDefinition.builtin year) key given).1 = .ok r) :
    ∃ context, r.context = .ok context ∧
      ∀ again, (load (RecipeDefinition.builtin again) key (r.arguments context)).1 = .ok r := by
  obtain ⟨k, r₁, rfl, hrecipe, hr⟩ := load_builtin_eq_ok.mp h
  obtain ⟨name, version, s, r₀, -, -, hdecode, hmade, hr₁⟩ := Kind.recipeOf_eq_ok_decode.mp hrecipe
  have hread := Settings.readFrom_of_decode hdecode
  have hbuilt := Kind.built_of_recipe hmade
  have hdeclared : r.declared = (s.withName name).dump := by rw [hr, hr₁, hbuilt.declared]
  have hname : r.name = name := by rw [hr, hr₁, hbuilt.name]; rfl
  obtain ⟨context, hcontext⟩ : ∃ context, r.context = .ok context :=
    ⟨_, context_eq_ok.mpr ⟨_, congrArg fieldsOf hdeclared, rfl⟩⟩
  obtain ⟨hordered, hnameOf, hversionOf, hfields⟩ :=
    of_arguments (hdeclared ▸ (s.withName name).ordered_dump) hcontext
  refine ⟨context, hcontext, fun again => load_builtin_eq_ok.mpr ⟨k, r₁, rfl, ?_, hr⟩⟩
  refine (Kind.recipeOf_eq_ok hordered).mpr
    ⟨r.name, r.version, s, r₀, hnameOf, hversionOf, ?_, hname ▸ hmade, ?_⟩
  · have hkept : ∀ field ∈ Settings.shape.fields.map Decode.Field.key,
        structural.contains field = false := by decide
    have hfits := Settings.fits_of_readFrom hyear hread
    rw [← Settings.withName_of_readFrom hread name]
    exact Settings.readFrom_of_dump hfits fun field hfield =>
      (hfields field (hkept field hfield)).trans (congrArg (·.member? field) hdeclared)
  · have hversion : (r.version.orElse fun _ => r₀.version) = version.orElse fun _ => r₀.version := by
      have hr : r.version = version.orElse fun _ => r₀.version := by rw [hr, hr₁]
      rw [hr]
      cases version with
      | none => cases r₀.version <;> rfl
      | some _ => rfl
    rw [hversion, hr₁]

/-- Arguments in their other forms: records given as arrays, a license as an object, and a name that says
nothing. -/
def listed : Fields := [
  ("git", .arr [.str "trunk", .bool false]), ("license", .obj [("mit", .null)]),
  ("name", .str "acme-tools"),
  ("repo", .arr [.str "-", .str "Jane", .str "jane@example.com", .str "",
    .str "https://example.com/jane/repo"]),
  ("unknown", .int 5)]

/-- They come to a context with the name of the license, which makes the same recipe in any year. -/
theorem load_arguments_listed : ∃ r context,
    (load (RecipeDefinition.builtin 2024) "python_package" listed).1 = .ok r ∧
      r.context = .ok context ∧ (Fields.get? context "license").bind Json.str? = some "mit" ∧
        (load (RecipeDefinition.builtin 1999) "python_package" (r.arguments context)).1 = .ok r := by
  have hlicense : (load (RecipeDefinition.builtin 2024) "python_package" listed).1.toOption.bind
      (fun r => (r.declared.member? "license").bind Json.str?) = some "mit" := by decide +kernel
  cases hload : (load (RecipeDefinition.builtin 2024) "python_package" listed).1 with
  | error e =>
    rw [hload] at hlicense
    exact nomatch hlicense
  | ok r =>
    rw [hload] at hlicense
    obtain ⟨context, hcontext, hagain⟩ := load_arguments (by decide) hload
    have hname : Fields.get? context "license" = r.declared.member? "license" :=
      get?_context hcontext (by decide)
    exact ⟨r, context, rfl, hcontext, by rw [hname]; exact hlicense, hagain 1999⟩

end Recipe

end Scaffold
