import Scaffold.Proofs.Arguments.Layers
import Scaffold.Proofs.Builtin.Load
import Scaffold.Proofs.Builtin.Settings

/-!
# Proofs/Builtin/Inspected — inspecting tells what loading does

A built-in recipe is loaded where its arguments have a name, no version but a text, and settings that pass
the check (`Kind.recipeOf_eq_ok`).  The parameters that are inspected miss nothing just where the
repository among the arguments is complete (`missingAll_inspected`), and that decides whether loading
misses a field.  What they offer for an absent argument is what loading takes it for
(`Kind.recipeOf_insertAt`), so giving it changes nothing.
-/

namespace Scaffold

/-- Results that **succeed alike** are alike but for how they fail. -/
theorem Except.toOption_eq {ε α : Type} {x y : Except ε α} (h : ∀ a, x = .ok a ↔ y = .ok a) :
    x.toOption = y.toOption := by
  cases x with
  | ok a => rw [(h a).mp rfl]
  | error e =>
    cases y with
    | ok b => exact nomatch (h b).mpr rfl
    | error e' => rfl

/-- A result that is **carried on** succeeds alike. -/
theorem Except.toOption_map {ε α β : Type} {x : Except ε α} {f : α → β} :
    (x.map f).toOption = x.toOption.map f := by
  cases x <;> rfl

namespace Builtin.Kind

open RecipeDefinition

variable {k : Kind} {year : Int} {given more : Fields} {name : String} {v : Json} {r : Recipe}

/-! ## Loading from arguments -/

/-- The settings of a recipe are **read from all arguments**: name and version are no fields of them. -/
theorem decode_arguments {s : Settings} (hordered : (given.map Prod.fst).Pairwise (· < ·)) :
    Settings.decode year (.obj (Fields.erase (Fields.erase given "name") "version")) = .ok s ↔
      Settings.ReadFrom year given s := by
  rw [Settings.decode_obj (Fields.nodup_of_pairwise
    (Fields.pairwise_erase (Fields.pairwise_erase hordered))),
    Settings.readFrom_erase (by decide), Settings.readFrom_erase (by decide)]

/-- A recipe is made of a name, a version and settings that are **decoded** from the other arguments. -/
theorem recipeOf_eq_ok_decode : (k.definition year).recipeOf given = .ok r ↔ ∃ name version s r₀,
    nameOf given = .ok name ∧ versionOf given = .ok version ∧
      Settings.decode year (.obj (Fields.erase (Fields.erase given "name") "version")) = .ok s ∧
        k.recipe name s = .ok r₀ ∧ r = { r₀ with version := version.orElse fun _ => r₀.version } := by
  rw [recipeOf]
  cases hname : nameOf given with
  | error fault => simp
  | ok name =>
  cases hversion : versionOf given with
  | error fault => simp
  | ok version =>
  simp only [definition]
  cases hdecode : Settings.decode year
    (.obj (Fields.erase (Fields.erase given "name") "version")) with
  | error fault => simp [Except.map]
  | ok s => cases hrecipe : k.recipe name s <;> simp [Except.map, hrecipe, eq_comm]

/-- **A recipe is made** of a name, a version and settings that are read from arguments. -/
theorem recipeOf_eq_ok (hordered : (given.map Prod.fst).Pairwise (· < ·)) :
    (k.definition year).recipeOf given = .ok r ↔ ∃ name version s r₀, nameOf given = .ok name ∧
      versionOf given = .ok version ∧ Settings.ReadFrom year given s ∧ k.recipe name s = .ok r₀ ∧
        r = { r₀ with version := version.orElse fun _ => r₀.version } := by
  simp only [recipeOf_eq_ok_decode, decode_arguments hordered]

/-- Arguments with the same name, the same version and the same settings **make the same recipe**. -/
theorem recipeOf_congr (hgiven : (given.map Prod.fst).Pairwise (· < ·))
    (hmore : (more.map Prod.fst).Pairwise (· < ·)) (hname : nameOf more = nameOf given)
    (hversion : versionOf more = versionOf given)
    (hread : ∀ s, Settings.ReadFrom year more s ↔ Settings.ReadFrom year given s) :
    (k.definition year).recipeOf more = .ok r ↔ (k.definition year).recipeOf given = .ok r := by
  simp only [recipeOf_eq_ok hgiven, recipeOf_eq_ok hmore, hname, hversion, hread]

/-- Arguments with a name and without settings are **refused as arguments**. -/
theorem exists_fault_of_not_readFrom (hordered : (given.map Prod.fst).Pairwise (· < ·))
    (hname : nameOf given = .ok name) (h : ∀ s, ¬Settings.ReadFrom year given s) :
    ∃ fault, (k.definition year).recipeOf given = .error (.arguments fault) := by
  rw [recipeOf, hname]
  cases hversion : versionOf given with
  | error fault => exact ⟨fault, rfl⟩
  | ok version =>
  simp only [definition]
  cases hdecode : Settings.decode year
    (.obj (Fields.erase (Fields.erase given "name") "version")) with
  | error fault => exact ⟨.field fault, rfl⟩
  | ok s => exact absurd ((decode_arguments hordered).mp hdecode) (h s)

/-- A version is never refused for **a field**. -/
theorem versionOf_ne_field {fault : DecodeFault} : versionOf given ≠ .error (.field fault) := by
  intro h
  rw [versionOf] at h
  split at h <;> simp at h

/-- A kind never refuses settings for **a field**. -/
theorem recipe_ne_field {s : Settings} {fault : DecodeFault} :
    k.recipe name s ≠ .error (.arguments (.field fault)) := by
  intro h
  rw [recipe] at h
  split at h
  · simp at h
  · rw [Recipe.of, Folder.of] at h
    split at h <;> simp [Except.map] at h

/-- Only **reading the settings** fails for a field. -/
theorem decode_of_field {fault : DecodeFault} (hname : nameOf given = .ok name)
    (h : (k.definition year).recipeOf given = .error (.arguments (.field fault))) :
    Settings.decode year (.obj (Fields.erase (Fields.erase given "name") "version")) =
      .error fault := by
  rw [recipeOf, hname] at h
  cases hversion : versionOf given with
  | error versionFault =>
    simp only [hversion, Except.error.injEq, Error.arguments.injEq] at h
    exact absurd (h ▸ hversion) versionOf_ne_field
  | ok version =>
  simp only [hversion, definition] at h
  cases hdecode : Settings.decode year
    (.obj (Fields.erase (Fields.erase given "name") "version")) with
  | error readFault => simpa [hdecode, Except.map] using h
  | ok s =>
    cases hrecipe : k.recipe name s with
    | error e =>
      simp only [hdecode, hrecipe, Except.map, Except.error.injEq] at h
      exact absurd (h ▸ hrecipe) recipe_ne_field
    | ok r => simp [hdecode, hrecipe, Except.map] at h

/-! ## Giving what stands in -/

/-- **What stands in** for an absent argument makes no difference to a recipe. -/
theorem recipeOf_insert (hordered : (given.map Prod.fst).Pairwise (· < ·))
    (habsent : Fields.get? given name = none) (hname : name ≠ "name")
    (hversion : name = "version" → v = .null) (h : Settings.StandsIn year name v) :
    (k.definition year).recipeOf (Fields.insert given name v) = .ok r ↔
      (k.definition year).recipeOf given = .ok r := by
  refine recipeOf_congr hordered (Fields.pairwise_insert hordered) ?_ ?_ fun s =>
    Settings.readFrom_insert habsent h
  · rw [nameOf, Fields.get?_insert_of_ne _ _ _ _ hname, nameOf]
  · rw [versionOf, versionOf]
    by_cases h : name = "version"
    · subst h
      rw [Fields.get?_insert_self, habsent, hversion rfl]
    · rw [Fields.get?_insert_of_ne _ _ _ _ h]

/-- Another record for the repository makes **no difference** to a recipe if none is made to the
repository. -/
theorem recipeOf_insert_repo {inner : Fields} (hordered : (given.map Prod.fst).Pairwise (· < ·))
    (h : Parameter.AbsentOrMapping given "repo")
    (hinner : ∀ x, Repository.decode (.obj inner) = .ok x ↔
      Repository.decode (.obj (Parameter.recordOf given "repo")) = .ok x) :
    (k.definition year).recipeOf (Fields.insert given "repo" (.obj inner)) = .ok r ↔
      (k.definition year).recipeOf given = .ok r :=
  recipeOf_congr hordered (Fields.pairwise_insert hordered)
    (by simp [nameOf, Fields.get?_insert_of_ne]) (by simp [versionOf, Fields.get?_insert_of_ne])
    fun _ => Settings.readFrom_insert_repo h hinner

/-- Another record for the branches makes **no difference** to a recipe if none is made to the
branches. -/
theorem recipeOf_insert_git {inner : Fields} (hordered : (given.map Prod.fst).Pairwise (· < ·))
    (h : Parameter.AbsentOrMapping given "git")
    (hinner : ∀ x, Branching.decode (.obj inner) = .ok x ↔
      Branching.decode (.obj (Parameter.recordOf given "git")) = .ok x) :
    (k.definition year).recipeOf (Fields.insert given "git" (.obj inner)) = .ok r ↔
      (k.definition year).recipeOf given = .ok r :=
  recipeOf_congr hordered (Fields.pairwise_insert hordered)
    (by simp [nameOf, Fields.get?_insert_of_ne]) (by simp [versionOf, Fields.get?_insert_of_ne])
    fun _ => Settings.readFrom_insert_git h hinner

/-- Of what every recipe has, an absent name and version **say nothing**, and the rest is no field of
the settings. -/
theorem common_of_offered {path : List String} (h : (path, v) ∈ Parameter.offeredAll common) :
    ∃ name, path = [name] ∧ name ≠ "name" ∧ (name = "version" → v = .null) ∧
      name ∉ Settings.shape.fields.map Decode.Field.key := by
  have h : path = ["id"] ∧ v = .null ∨ path = ["contents"] ∧ v = .str "<recipe contents>" ∨
      path = ["version"] ∧ v = .null ∨ path = ["pre_hooks"] ∧ v = .arr [] ∨
        path = ["post_hooks"] ∧ v = .arr [] := by
    simpa [common, Parameter.offeredAll, Parameter.offered] using h
  rcases h with ⟨rfl, rfl⟩ | ⟨rfl, rfl⟩ | ⟨rfl, rfl⟩ | ⟨rfl, rfl⟩ | ⟨rfl, rfl⟩
  all_goals exact ⟨_, rfl, by decide, by simp, by decide⟩

/-- **What stands in** for an absent argument can be given, and makes no difference to a recipe. -/
theorem recipeOf_insertAt_name (hordered : (Json.obj given).Ordered)
    (habsent : (Json.obj given).at? [name] = none) (hname : name ≠ "name")
    (hversion : name = "version" → v = .null) (h : Settings.StandsIn year name v) :
    ∃ more, Arguments.insertAt given v [name] = .ok more ∧
      ∀ r, (k.definition year).recipeOf more = .ok r ↔ (k.definition year).recipeOf given = .ok r := by
  have hget : Fields.get? given name = none := by
    cases hget : Fields.get? given name with
    | none => rfl
    | some w => simp [Json.member?, hget] at habsent
  exact ⟨_, rfl, fun r => recipeOf_insert hordered.pairwise hget hname hversion h⟩

/-- **What the parameters offer** for an absent argument makes no difference to a recipe. -/
theorem recipeOf_insertAt (hyear : -Int.pow 2 31 ≤ year ∧ year < Int.pow 2 31)
    (hordered : (Json.obj given).Ordered) (hrepo : Parameter.AbsentOrMapping given "repo")
    (hgit : Parameter.AbsentOrMapping given "git") {path : List String}
    (hoffered : (path, v) ∈ Parameter.offeredAll (k.definition year).parameters)
    (habsent : (Json.obj given).at? path = none) :
    ∃ more, Arguments.insertAt given v path = .ok more ∧
      ∀ r, (k.definition year).recipeOf more = .ok r ↔
        (k.definition year).recipeOf given = .ok r := by
  rcases List.mem_append.mp (Parameter.offeredAll_append ▸ hoffered) with hoffered | hoffered
  · obtain ⟨name, rfl, hname, hversion, hfield⟩ := common_of_offered hoffered
    exact recipeOf_insertAt_name hordered habsent hname hversion (Settings.standsIn_of_not_mem hfield)
  rcases Settings.standsIn_of_offered hyear hoffered with
    ⟨name, rfl, hfield, h⟩ | ⟨name, rfl, h⟩ | ⟨name, rfl, h⟩
  · refine recipeOf_insertAt_name hordered habsent ?_ ?_ h
    · rintro rfl
      exact absurd hfield (by decide)
    · rintro rfl
      exact absurd hfield (by decide)
  · rw [hrepo.at?] at habsent
    exact ⟨_, hrepo.insertAt name v, fun r => recipeOf_insert_repo hordered.pairwise hrepo fun x =>
      Repository.decode_insert (Parameter.ordered_recordOf hordered).pairwise habsent h⟩
  · rw [hgit.at?] at habsent
    exact ⟨_, hgit.insertAt name v, fun r => recipeOf_insert_git hordered.pairwise hgit fun x =>
      Branching.decode_insert (Parameter.ordered_recordOf hordered).pairwise habsent h⟩

/-! ## What is missing -/

/-- Of declared parameters **none is missing** where the repository is complete. -/
theorem missing_declared {p : Parameter} (hrepo : Parameter.AbsentOrMapping given "repo")
    (hcomplete : Repository.shape.Complete (Parameter.recordOf given "repo"))
    (hp : p ∈ Settings.parameters year) : Parameter.missing "" given p = [] := by
  simp only [Settings.parameters, List.mem_cons, List.not_mem_nil, or_false] at hp
  rcases hp with rfl | rfl | rfl | rfl | rfl
  · rw [Parameter.missing, hrepo.searched?]
    exact Repository.describes.missingAll_eq_nil.mpr hcomplete
  · have hnone : ∀ inner, Branching.shape.Complete inner := fun inner f hf hrequired => by
      simp only [Branching.shape, List.mem_cons, List.not_mem_nil, or_false] at hf
      rcases hf with rfl | rfl <;> simp [Decode.Field.may] at hrequired
    rw [Parameter.missing]
    split
    · rfl
    · exact Branching.describes.missingAll_eq_nil.mpr (hnone _)
  all_goals simp [Parameter.optional, Parameter.missing]

/-- **The parameters that are inspected** miss nothing where the repository is complete, and only
there. -/
theorem missingAll_inspected {i : Recipe.Inspection} (hname : Fields.has given "name" = true)
    (hrepo : Parameter.AbsentOrMapping given "repo") :
    Parameter.missingAll "" given
        (((k.definition year).parameters.filter i.shows).map Parameter.expanded) = [] ↔
      Repository.shape.Complete (Parameter.recordOf given "repo") := by
  rw [Parameter.missingAll_eq_nil]
  constructor
  · intro h
    have hshown : i.shows
        (.record "repo" "RepoMetadata" .declared none Repository.parameters) = true := by
      simp [Recipe.Inspection.shows, Parameter.isPrivate, Parameter.name, Parameter.origin]
    have hmem := List.mem_filter.mpr ⟨List.mem_append_right common (List.mem_cons_self
      (l := (Settings.parameters year).tail)), hshown⟩
    have hmissing := h _ (List.mem_map_of_mem hmem)
    rw [Parameter.missing_expanded, Parameter.missing, hrepo.searched?] at hmissing
    exact Repository.describes.missingAll_eq_nil.mp hmissing
  · intro hcomplete p hp
    obtain ⟨q, hq, rfl⟩ := List.mem_map.mp hp
    rw [Parameter.missing_expanded]
    rcases List.mem_append.mp (List.mem_of_mem_filter hq) with hq | hq
    · simp only [common, List.mem_cons, List.not_mem_nil, or_false] at hq
      rcases hq with rfl | rfl | rfl | rfl | rfl | rfl <;> simp [Parameter.missing, hname]
    · exact missing_declared hrepo hcomplete hq

end Builtin.Kind

namespace Recipe

open Builtin Parameter

variable {registry : Registry RecipeDefinition} {key : String} {given : Fields} {i : Inspection}
  {c : RecipeDefinition} {parameters : List Parameter}

/-- **Loading** makes the recipe of the definition that is looked up. -/
theorem load_eq_of_lookup (h : (lookup registry key).1 = .ok c) : (load registry key given).1 =
    (c.recipeOf given).map fun r => { r with extensionName := key } := by
  rw [load]
  rcases hlookup : lookup registry key with ⟨x, warnings⟩
  obtain rfl : x = .ok c := by rw [← h, hlookup]
  rfl

/-- **Inspecting** shows the parameters of the definition that is looked up. -/
theorem inspect_eq_of_lookup (h : (lookup registry key).1 = .ok c) :
    (inspect registry key i).1 = .ok ((c.parameters.filter i.shows).map expanded) := by
  rw [inspect]
  rcases hlookup : lookup registry key with ⟨x, warnings⟩
  obtain rfl : x = .ok c := by rw [← h, hlookup]
  rfl

/-- What is **looked up** in the built-in registry is the definition of a built-in kind. -/
theorem exists_kind_of_lookup {year : Int}
    (h : (lookup (RecipeDefinition.builtin year) key).1 = .ok c) :
    ∃ k : Kind, key = k.name ∧ c = k.definition year := by
  rw [lookup, Registry.load] at h
  cases hfind : (RecipeDefinition.builtin year).find? recipeGroup key with
  | none => simp [hfind] at h
  | some c' =>
    simp only [hfind, Except.ok.injEq] at h
    exact exists_kind_of_find? (h ▸ hfind)

/-- The parameters that are inspected **offer no more** than those of the definition. -/
theorem offeredAll_inspected_subset :
    offeredAll ((c.parameters.filter i.shows).map expanded) ⊆ offeredAll c.parameters := by
  intro o ho
  obtain ⟨p, hp, ho⟩ := mem_offeredAll.mp ho
  obtain ⟨q, hq, rfl⟩ := List.mem_map.mp hp
  exact mem_offeredAll.mpr ⟨q, List.mem_of_mem_filter hq, offered_expanded_subset q ho⟩

/-- **Inspection tells the truth about loading.**  Let a built-in recipe be looked up and inspected in
whatever way, and take arguments with a text for a name, in which there is nothing or a mapping for the
repository and for the branches.  If the parameters miss something, the arguments are refused; if they
are refused for a field that is missing, the parameters miss something.  What the parameters offer for an
argument that is absent, whether they show those of records or not, can be given: it leaves the outcome
as it is, a failure or the same recipe. -/
theorem inspect_tells_load {year : Int} {name : String}
    (hyear : -Int.pow 2 31 ≤ year ∧ year < Int.pow 2 31)
    (hlookup : (lookup (RecipeDefinition.builtin year) key).1 = .ok c)
    (hinspect : (inspect (RecipeDefinition.builtin year) key i).1 = .ok parameters)
    (hordered : (Json.obj given).Ordered) (hname : Fields.get? given "name" = some (.str name))
    (hrepo : AbsentOrMapping given "repo") (hgit : AbsentOrMapping given "git") :
    (missingAll "" given parameters ≠ [] → ∃ fault,
      (load (RecipeDefinition.builtin year) key given).1 = .error (.arguments fault)) ∧
    (∀ field, (load (RecipeDefinition.builtin year) key given).1 =
        .error (.arguments (.field (.missingField field))) → missingAll "" given parameters ≠ []) ∧
    ∀ path v, (path, v) ∈ offeredAll parameters ∨ (path, v) ∈ offeredAll c.parameters →
      (Json.obj given).at? path = none → ∃ more, Arguments.insertAt given v path = .ok more ∧
        (load (RecipeDefinition.builtin year) key more).1.toOption =
          (load (RecipeDefinition.builtin year) key given).1.toOption := by
  obtain ⟨k, rfl, rfl⟩ := exists_kind_of_lookup hlookup
  obtain rfl := Except.ok.inj (hinspect.symm.trans (inspect_eq_of_lookup hlookup))
  have hnameOf : RecipeDefinition.nameOf given = .ok name := by rw [RecipeDefinition.nameOf, hname]
  have hmissing : missingAll "" given
      (((k.definition year).parameters.filter i.shows).map Parameter.expanded) = [] ↔
        Repository.shape.Complete (Parameter.recordOf given "repo") :=
    Kind.missingAll_inspected (by simp [Fields.has, hname]) hrepo
  refine ⟨fun h => ?_, fun field h => ?_, fun path v hoffered habsent => ?_⟩
  · have hread : ∀ s, ¬Settings.ReadFrom year given s := fun s hs =>
      h (hmissing.mpr (Settings.complete_of_readFrom hs hrepo))
    obtain ⟨fault, hfault⟩ := Kind.exists_fault_of_not_readFrom hordered.pairwise hnameOf hread
    exact ⟨fault, by rw [load_eq_of_lookup hlookup, hfault]; rfl⟩
  · rw [load_eq_of_lookup hlookup] at h
    have hrecipe : (k.definition year).recipeOf given =
        .error (.arguments (.field (.missingField field))) := by
      cases hrecipe : (k.definition year).recipeOf given with
      | ok r => simp [hrecipe, Except.map] at h
      | error e => simpa [hrecipe, Except.map] using h
    have hdecode := Kind.decode_of_field hnameOf hrecipe
    have hcomplete := Settings.not_complete_of_missing
      (Fields.ordered_erase (Fields.ordered_erase hordered))
      ((hrepo.erase (by decide)).erase (by decide)) ((hgit.erase (by decide)).erase (by decide)) hdecode
    rw [recordOf_erase_of_ne (by decide), recordOf_erase_of_ne (by decide)] at hcomplete
    exact fun h => hcomplete (hmissing.mp h)
  · have hdeclared := hoffered.elim (fun h => offeredAll_inspected_subset h) id
    obtain ⟨more, hmore, hsame⟩ := Kind.recipeOf_insertAt hyear hordered hrepo hgit hdeclared habsent
    refine ⟨more, hmore, ?_⟩
    rw [load_eq_of_lookup hlookup, load_eq_of_lookup hlookup, Except.toOption_map,
      Except.toOption_map, Except.toOption_eq hsame]

/-- Arguments without an address: two parts of what a repository must have, and branches that are not
chosen. -/
def withoutAddress : Fields :=
  [("git", .obj []), ("name", .str "acme-api"),
    ("repo", .obj [("email", .str "dev@acme.io"), ("owner", .str "acme")])]

theorem inspect_tells_load_withoutAddress :
    let registry := RecipeDefinition.builtin 2024
    ∃ parameters, (inspect registry "python_api" ⟨false, false, false⟩).1 = .ok parameters ∧
      missingAll "" withoutAddress parameters = ["repo.url"] ∧
        (∃ fault, (load registry "python_api" withoutAddress).1 = .error (.arguments fault)) ∧
          ∃ more, Arguments.insertAt withoutAddress (.bool true) ["git", "git_flow"] = .ok more ∧
            (load registry "python_api" more).1.toOption =
              (load registry "python_api" withoutAddress).1.toOption := by
  have hordered : (Json.obj withoutAddress).Ordered := by
    refine .obj (by decide +kernel) fun f hf => ?_
    simp only [withoutAddress, List.mem_cons, List.not_mem_nil, or_false] at hf
    rcases hf with rfl | rfl | rfl
    · exact .obj .nil fun f hf => absurd hf List.not_mem_nil
    · exact .str _
    · refine .obj (by decide +kernel) fun f hf => ?_
      simp only [List.mem_cons, List.not_mem_nil, or_false] at hf
      rcases hf with rfl | rfl
      · exact .str _
      · exact .str _
  have hgit : AbsentOrMapping withoutAddress "git" := fun v hv => by
    obtain rfl : Json.obj [] = v := Option.some.inj hv
    rfl
  have hrepo : AbsentOrMapping withoutAddress "repo" := fun v hv => by
    obtain rfl : Json.obj [("email", .str "dev@acme.io"), ("owner", .str "acme")] = v :=
      Option.some.inj hv
    rfl
  have hlookup : (lookup (RecipeDefinition.builtin 2024) "python_api").1 =
      .ok (Kind.service.definition 2024) := rfl
  have hinspect := inspect_eq_of_lookup (i := ⟨false, false, false⟩) hlookup
  have hmissing : missingAll "" withoutAddress
      (((Kind.service.definition 2024).parameters.filter (Inspection.shows ⟨false, false, false⟩)).map
        expanded) = ["repo.url"] := by decide +kernel
  obtain ⟨hfails, -, hoffers⟩ := inspect_tells_load (by decide) hlookup hinspect hordered rfl hrepo hgit
  refine ⟨_, hinspect, hmissing, hfails (by rw [hmissing]; decide),
    hoffers ["git", "git_flow"] (.bool true) (Or.inr ?_) rfl⟩
  simp [Kind.definition, RecipeDefinition.parameters, RecipeDefinition.common, Settings.parameters,
    Repository.parameters, Branching.parameters, Branching.standard, Parameter.required,
    Parameter.optional, offeredAll, offered]

end Recipe

end Scaffold
