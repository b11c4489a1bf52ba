import Scaffold.Proofs.Builtin.Files
import Scaffold.Proofs.Builtin.Reloaded

/-!
# Proofs/Builtin/Extended — the other kinds extend the package

All kinds accept the same arguments, and their recipes have the same context but for what a recipe says of
itself (`Recipe.exists_load_of_load`, `Recipe.get?_context_congr`).  What the layouts share does not read
that, so it comes to the same in both contexts (`plan_shared`), and of the files of a package only its
description and its introduction may come to something else in another kind (`mem_files_of_package`).
-/

namespace Scaffold

namespace Recipe

open Builtin RecipeDefinition

variable {r r' : Recipe} {context context' : Context} {key : String}

/-! ## Loading as another kind -/

/-- A context has what the recipe **says of itself**. -/
theorem get?_context_recipe (h : r.context = .ok context) :
    Fields.get? context "recipe" = some r.info.toJson := by
  obtain ⟨fs, -, rfl⟩ := context_eq_ok.mp h
  exact Fields.get?_insert_self _ _ _

/-- Recipes that declare the same have contexts that **agree**, but for what the recipes say of
themselves. -/
theorem get?_context_congr (hdeclared : r.declared = r'.declared) (h : r.context = .ok context)
    (h' : r'.context = .ok context') (hkey : key ≠ "recipe") :
    Fields.get? context key = Fields.get? context' key := by
  obtain ⟨fs, hfs, rfl⟩ := context_eq_ok.mp h
  obtain ⟨fs', hfs', rfl⟩ := context_eq_ok.mp h'
  obtain rfl : fs = fs' := Except.ok.inj (hfs.symm.trans (hdeclared ▸ hfs'))
  rw [Fields.get?_insert_of_ne _ _ _ _ hkey.symm, Fields.get?_insert_of_ne _ _ _ _ hkey.symm]

end Recipe

namespace Builtin.Kind

variable {k : Kind} {s : Settings} {name : String} {r : Recipe}

/-- Kinds are told apart by their **names**. -/
theorem name_injective : Function.Injective Kind.name := by
  intro j k h
  cases j <;> cases k <;> first | rfl | exact absurd h (by decide)

/-- Kinds are told apart by their **identities**. -/
theorem identity_injective : Function.Injective Kind.identity := by
  intro j k h
  cases j <;> cases k <;> first | rfl | exact absurd h (by decide)

/-- **Every kind** makes a recipe of settings that pass the check. -/
theorem exists_recipe (hcheck : (s.withName name).repository.check = .ok ()) (k : Kind) :
    ∃ r, k.recipe name s = .ok r := by
  have hids : Folder.repeatedId? [] k.layout = none := by cases k <;> rfl
  rw [recipe]
  simp only [hcheck, Recipe.of, Folder.of, hids]
  exact ⟨_, rfl⟩

/-- The recipe of a kind has the **identity** of the kind. -/
theorem info_of_recipe (h : k.recipe name s = .ok r) :
    r.identity = k.identity ∧ r.version = some toolVersion := by
  rw [recipe] at h
  split at h
  · simp at h
  rw [Recipe.of, Folder.of] at h
  split at h
  · simp [Except.map] at h
  · obtain rfl := Except.ok.inj h
    exact ⟨rfl, rfl⟩

end Builtin.Kind

namespace Recipe

open Builtin RecipeDefinition

variable {year : Int} {given : Fields} {r : Recipe} {j : Kind}

/-- **All kinds accept the same arguments**, and build the same settings into their own layouts.  What the
recipes say of themselves differs in the identity and the name of the kind. -/
theorem exists_load_of_load (h : (load (RecipeDefinition.builtin year) j.name given).1 = .ok r)
    (k : Kind) : ∃ (r' : Recipe) (s : Settings),
      (load (RecipeDefinition.builtin year) k.name given).1 = .ok r' ∧
        nameOf given = .ok s.repository.name ∧ j.Built s r ∧ k.Built s r' ∧
          r.info = ⟨j.identity, r.version, j.name⟩ ∧ r'.info = ⟨k.identity, r.version, k.name⟩ := by
  obtain ⟨j', r₁, hkey, hrecipe, rfl⟩ := load_builtin_eq_ok.mp h
  obtain rfl := Kind.name_injective hkey
  obtain ⟨name, version, s, r₀, hname, hversion, hdecode, hmade, rfl⟩ :=
    Kind.recipeOf_eq_ok_decode.mp hrecipe
  have hbuilt := Kind.built_of_recipe hmade
  obtain ⟨r₀', hmade'⟩ := Kind.exists_recipe hbuilt.checked k
  have hbuilt' := Kind.built_of_recipe hmade'
  obtain ⟨hidentity, htool⟩ := Kind.info_of_recipe hmade
  obtain ⟨hidentity', htool'⟩ := Kind.info_of_recipe hmade'
  refine ⟨_, s.withName name, load_builtin_eq_ok.mpr ⟨k, _, rfl, Kind.recipeOf_eq_ok_decode.mpr
    ⟨name, version, s, r₀', hname, hversion, hdecode, hmade', rfl⟩, rfl⟩, hname,
    hbuilt.relabelled _ _, hbuilt'.relabelled _ _, ?_, ?_⟩
  · simp only [info, hidentity]
  · simp only [info, hidentity', htool, htool']

end Recipe

namespace Builtin

open Template

variable {d : Disk} {context context' : Context} {repository : Repository}

/-! ## What the layouts share -/

/-- Two contexts that **agree**, but for what a recipe says of itself, and have the records. -/
structure Agree (context context' : Context) : Prop where
  records : ∀ x ∈ records, Fields.has context x = true
  get? : ∀ key, key ≠ "recipe" → Fields.get? context key = Fields.get? context' key

/-- Contexts that agree choose **the same license**. -/
theorem Agree.license (h : Agree context context') :
    License.ofContext? context = License.ofContext? context' := by
  rw [License.ofContext?, License.ofContext?, h.get? "license" (by decide)]

/-- A text that does not read what a recipe says of itself renders to **the same** in contexts that
agree. -/
theorem Agree.render_eq (h : Agree context context') {names : List String} {text : String}
    (hnames : names ⊆ Builtin.records) (htext : ignores names "recipe" text = true) :
    Renderer.builtin.render d text context = Renderer.builtin.render d text context' := by
  have hrecords' : ∀ x ∈ Builtin.records, Fields.has context' x = true := by
    intro x hx
    have hne : x ≠ "recipe" := by
      rintro rfl
      exact absurd hx (by decide)
    rw [Fields.has, ← h.get? x hne]
    exact h.records x hx
  obtain ⟨s, hs, hs'⟩ := render_congr_of_ignores htext (fun x hx => h.records x (hnames hx))
    (fun x hx => hrecords' x (hnames hx)) h.get?
  rw [Renderer.render_of_ok hs, Renderer.render_of_ok hs']

/-- The sources that **all layouts share**, but for the license, with their texts. -/
def sharedSources : List (Source × String) := [
  (.resource ⟨ingredients, "gitignore.template"⟩, gitignore),
  (.resource ⟨ingredients, "noxfile.py.template"⟩, noxfile),
  (.resource ⟨ingredients, "pre-commit-config.yaml.template"⟩, preCommitConfig),
  (.text placeholderTest, placeholderTest),
  (.text "", ""),
  (.resource ⟨docsModule, "index.md.template"⟩, docsIndex),
  (.resource ⟨docsModule, "usage.md.template"⟩, docsUsage),
  (.resource ⟨docsModule, "developing_index.md.template"⟩, docsDeveloping),
  (.resource ⟨docsModule, "license.md.template"⟩, docsLicense),
  (.resource ⟨docsModule, "mkdocs.yml.template"⟩, mkdocs),
  (.resource ⟨ingredients, "__init__.py.template"⟩, packageInit)]

/-- The sources resolve to **their texts**. -/
theorem resolve_shared : ∀ x ∈ sharedSources, x.1.resolve .builtin d context =
    .ok (some (.text x.2)) := by
  simp only [sharedSources, List.forall_mem_cons]
  exact ⟨rfl, rfl, rfl, rfl, rfl, rfl, rfl, rfl, rfl, rfl, rfl, List.forall_mem_nil _⟩

/-- The texts are **shared**. -/
theorem mem_sharedPages : ∀ x ∈ sharedSources, x.2 ∈ sharedPages := by
  simp [sharedSources, sharedPages]

/-- What the layouts share, but for the license, **renders to the same** in contexts that agree. -/
theorem render_shared (h : Agree context context') : ∀ x ∈ sharedSources.map Prod.fst,
    x.render .builtin d context = x.render .builtin d context' := by
  rw [List.forall_mem_map]
  intro x hx
  have hignores := ignores_sharedPages x.2 (mem_sharedPages x hx)
  rw [Source.render, resolve_shared x hx, Source.render, resolve_shared x hx]
  simp only [h.render_eq (List.Subset.refl _) hignores]

/-- The nodes that **all layouts share** below the root, but for the license. -/
def sharedNodes : List Node := tooling ++ [tests, documentation]

/-- The sources of these, and of the file that every package starts with, are **shared**. -/
theorem sourcesAll_shared :
    Node.sourcesAll (sharedNodes ++ [packageFile]) = sharedSources.map Prod.fst := rfl

/-- Their names are **written out**. -/
theorem isPlain_names_shared :
    ∀ name ∈ Node.namesAll (sharedNodes ++ [packageFile]), name.isPlain = true := by
  rw [← List.all_eq_true]
  decide +kernel

/-- **What the layouts share** comes to the same in contexts that agree. -/
theorem plan_shared (h : Agree context context') {base : Path} : ∀ n ∈ sharedNodes ++ [packageFile],
    n.plan .builtin d context none base = n.plan .builtin d context' none base := by
  intro n hn
  refine Node.plan_congr (fun name hname => ?_) fun x hx => ?_
  · have hmem : name ∈ Node.namesAll (sharedNodes ++ [packageFile]) := by
      rw [Node.namesAll_eq_flatMap]
      exact List.mem_flatMap_of_mem hn hname
    obtain ⟨s, rfl⟩ := Name.exists_of_isPlain (isPlain_names_shared name hmem)
    rfl
  · have hmem : x ∈ Node.sourcesAll (sharedNodes ++ [packageFile]) := by
      rw [Node.sourcesAll_eq_flatMap]
      exact List.mem_flatMap_of_mem hn hx
    exact render_shared h x (sourcesAll_shared ▸ hmem)

/-- **The license** comes to the same in contexts that agree. -/
theorem plan_license (h : Agree context context') {base : Path} :
    License.file.plan .builtin d context none base = License.file.plan .builtin d context' none base := by
  refine Node.plan_congr (fun name hname => ?_) fun x hx => ?_
  · obtain rfl := List.mem_singleton.mp hname
    rw [Name.resolve, Name.resolve, h.license]
  · obtain rfl := List.mem_singleton.mp hx
    rw [Source.render, Source.resolve, Source.render, Source.resolve, h.license]
    cases License.ofContext? context' with
    | none => rfl
    | some l => simp only [Option.map_some, h.render_eq (List.nil_subset _) (ignores_license l)]

/-! ## The files of a package -/

/-- **Every layout** has the nodes that all layouts share. -/
theorem subset_layout (k : Kind) : License.file :: sharedNodes ⊆ k.layout := by
  cases k <;>
    simp [sharedNodes, Kind.layout, packageLayout, serviceLayout, recipePackageLayout]

/-- A package has the nodes that all layouts share, its sources, its description and its introduction, **and
nothing else**. -/
theorem cases_of_mem_package {n : Node} (hn : n ∈ Kind.package.layout) :
    n ∈ sharedNodes ∨ n = License.file ∨ n = sources [] ∨ n ∈ descriptions ingredients := by
  simp only [sharedNodes, Kind.layout, packageLayout, List.mem_append, List.mem_cons,
    List.not_mem_nil, or_false] at hn ⊢
  tauto

/-- The sources come to the files of **the package**. -/
theorem files_sources (h : Fields.get? context "repo" = some repository.dump) (root : Path)
    (more : List Node) : ((sources more).plan .builtin d context none root).files =
      Plan.filesAll (Node.planAll .builtin d context (repository.folderIn root)
        (packageFile :: more)) := by
  rw [plan_sources h, Plan.files_folder, Plan.filesAll_cons, Plan.files_folder]
  exact List.append_nil _

/-- **A file of a package** is a file of every other kind, unless it is the description or the
introduction. -/
theorem mem_files_of_package (h : Agree context context')
    (hrepo : Fields.get? context "repo" = some repository.dump) (k : Kind) {root : Path}
    {f : Path × Content}
    (hf : f ∈ Plan.filesAll (Node.planAll .builtin d context root Kind.package.layout)) :
    f ∈ Plan.filesAll (Node.planAll .builtin d context' root k.layout) ∨
      f.1 = root.joinName "pyproject.toml" ∨ f.1 = root.joinName "README.md" := by
  have hrepo' : Fields.get? context' "repo" = some repository.dump :=
    (h.get? "repo" (by decide)).symm.trans hrepo
  rw [Node.mem_files_planAll] at hf ⊢
  obtain ⟨n, hn, hfile⟩ := hf
  rcases cases_of_mem_package hn with hshared | rfl | rfl | hdescription
  · refine Or.inl ⟨n, subset_layout k (List.mem_cons_of_mem _ hshared), ?_⟩
    rwa [← plan_shared h n (List.mem_append_left _ hshared)]
  · refine Or.inl ⟨License.file, subset_layout k List.mem_cons_self, ?_⟩
    rwa [← plan_license h]
  · -- the file that every package starts with is in one folder, whatever is next to it
    refine Or.inl ⟨sources k.more, by simp [k.layout_eq], ?_⟩
    rw [files_sources hrepo, Node.mem_files_planAll] at hfile
    rw [files_sources hrepo', Node.mem_files_planAll]
    obtain ⟨n, hn, hfile⟩ := hfile
    obtain rfl := List.mem_singleton.mp hn
    refine ⟨packageFile, List.mem_cons_self, ?_⟩
    rwa [← plan_shared h packageFile (List.mem_append_right _ List.mem_cons_self)]
  · right
    simp only [descriptions, templateFile, List.mem_cons, List.not_mem_nil, or_false] at hdescription
    rcases hdescription with rfl | rfl
    · exact Or.inl (Node.mem_files_file.mp hfile).1
    · exact Or.inr (Node.mem_files_file.mp hfile).1

/-- Every kind has **the paths** of a package. -/
theorem Kind.files_package_subset (k : Kind) (root package : Path) (license : Option License) :
    Kind.package.files root package license ⊆ k.files root package license := by
  have hinside : Kind.package.filesInside ⊆ k.filesInside := by cases k <;> decide
  have hafter : Kind.package.filesAfter ⊆ k.filesAfter := by cases k <;> decide
  intro p hp
  simp only [files, List.mem_append] at hp ⊢
  rcases hp with ((hp | hp) | hp) | hp
  · exact Or.inl (Or.inl (Or.inl hp))
  · exact Or.inl (Or.inl (Or.inr (List.map_subset _ hinside hp)))
  · exact Or.inl (Or.inr (List.map_subset _ hafter hp))
  · exact Or.inr hp

/-- Recipes of the same settings have contexts that **agree**. -/
theorem agree_of_built {j k : Kind} {s : Settings} {r r' : Recipe} (hbuilt : j.Built s r)
    (hbuilt' : k.Built s r') (h : Presents context s) (hcontext : r.context = .ok context)
    (hcontext' : r'.context = .ok context') : Agree context context' :=
  ⟨h.records, fun _ => Recipe.get?_context_congr (hbuilt.declared.trans hbuilt'.declared.symm)
    hcontext hcontext'⟩

/-- **The other kinds contain the package.**  Whatever arguments are accepted for a package, the others
accept too.  Whatever the base, the dry run of each has every file of that of the package, with the same
content unless it is the description or the introduction of the package.  The contexts differ, but only in
what the recipes say of themselves, which has another identity and another name. -/
theorem dryrun_contains_package {year : Int} {given : Fields} {r : Recipe}
    (hload : (Recipe.load (RecipeDefinition.builtin year) Kind.package.name given).1 = .ok r)
    (k : Kind) (d : Disk) (base override : Option Path) :
    ∃ (name : String) (root : Path) (r' : Recipe) (t t' : Tree) (context context' : Context),
      RecipeDefinition.nameOf given = .ok name ∧
      root = (Recipe.baseOf d base).join (override.getD ⟨name⟩) ∧
      (Recipe.load (RecipeDefinition.builtin year) k.name given).1 = .ok r' ∧
      r.dryrun d base override [] = .ok t ∧ r'.dryrun d base override [] = .ok t' ∧
      (∀ p ∈ Tree.filePaths t, p ∈ Tree.filePaths t' ∧
        (p ≠ root.joinName "pyproject.toml" → p ≠ root.joinName "README.md" →
          ∃ content, Tree.findContent p t = some content ∧
            Tree.findContent p t' = some content)) ∧
      (r.context = .ok context ∧ r'.context = .ok context' ∧
        (∀ key, key ≠ "recipe" → Fields.get? context key = Fields.get? context' key) ∧
        Fields.get? context "recipe" = some
          (RecipeInfo.toJson ⟨Kind.package.identity, r.version, Kind.package.name⟩) ∧
        Fields.get? context' "recipe" = some (RecipeInfo.toJson ⟨k.identity, r.version, k.name⟩) ∧
        (k ≠ .package → k.identity ≠ Kind.package.identity ∧ k.name ≠ Kind.package.name)) := by
  obtain ⟨r', s, hload', hname, hbuilt, hbuilt', hinfo, hinfo'⟩ := Recipe.exists_load_of_load hload k
  obtain ⟨context, hcontext, hpresents⟩ := hbuilt.exists_presents
  obtain ⟨context', hcontext', hpresents'⟩ := hbuilt'.exists_presents
  obtain ⟨t, ht, hfiles⟩ := hbuilt.exists_files hcontext hpresents d base override
  obtain ⟨t', ht', hfiles'⟩ := hbuilt'.exists_files hcontext' hpresents' d base override
  rw [Recipe.combined_nil] at hcontext hcontext'
  have hagree := agree_of_built hbuilt hbuilt' hpresents hcontext hcontext'
  have hpaths := hpresents.filePaths hfiles
  have hpaths' := hpresents'.filePaths hfiles'
  refine ⟨s.repository.name, _, r', t, t', context, context', hname, rfl, hload', ht, ht',
    fun p hp => ⟨?_, fun hdescription hintroduction => ?_⟩, hcontext, hcontext', hagree.get?,
    hinfo ▸ Recipe.get?_context_recipe hcontext, hinfo' ▸ Recipe.get?_context_recipe hcontext',
    fun hk => ⟨Kind.identity_injective.ne hk, Kind.name_injective.ne hk⟩⟩
  · rw [hpaths] at hp
    exact hpaths' ▸ k.files_package_subset _ _ _ hp
  · rw [Tree.filePaths_eq_map, List.mem_map] at hp
    obtain ⟨⟨p, content⟩, hfile, rfl⟩ := hp
    have hfile' : (p, content) ∈ Tree.files t' := by
      rw [hfiles']
      rw [hfiles] at hfile
      exact (mem_files_of_package hagree hpresents.repository k hfile).resolve_right
        (not_or.mpr ⟨hdescription, hintroduction⟩)
    have hdistinct : ((Tree.filePaths t).map Path.components).Nodup :=
      hpaths ▸ Kind.nodup_components_files _ _ _ _
    have hdistinct' : ((Tree.filePaths t').map Path.components).Nodup :=
      hpaths' ▸ Kind.nodup_components_files _ _ _ _
    exact ⟨content, Tree.findContent_of_mem hdistinct hfile,
      Tree.findContent_of_mem hdistinct' hfile'⟩

theorem dryrun_contains_package_licensedPackage : ∃ r r' t t' content,
    (Recipe.load (RecipeDefinition.builtin 2024) "python_package" licensedPackage).1 = .ok r ∧
      (Recipe.load (RecipeDefinition.builtin 2024) "python_api" licensedPackage).1 = .ok r' ∧
        r.dryrun default (some ⟨"out"⟩) none [] = .ok t ∧
          r'.dryrun default (some ⟨"out"⟩) none [] = .ok t' ∧
            Tree.findContent ⟨"out/acme-tools/noxfile.py"⟩ t = some content ∧
              Tree.findContent ⟨"out/acme-tools/noxfile.py"⟩ t' = some content := by
  have hok : (Recipe.load (RecipeDefinition.builtin 2024) Kind.package.name licensedPackage).1.isOk =
      true := by decide +kernel
  obtain ⟨r, hload⟩ := exists_of_isOk hok
  obtain ⟨name, root, r', t, t', -, -, hname, hroot, hload', ht, ht', hfiles, -⟩ :=
    dryrun_contains_package hload .service default (some ⟨"out"⟩) none
  obtain rfl : "acme-tools" = name := Except.ok.inj hname
  obtain rfl : ⟨"out/acme-tools"⟩ = root := hroot.symm
  have hmem : (⟨"out/acme-tools/noxfile.py"⟩ : Path) ∈ Tree.filePaths t := by
    obtain ⟨k, s, -, hasked, hbuilt⟩ := Recipe.exists_built_of_load hload
    obtain ⟨u, hu, hpaths⟩ := exists_dryrun_of_built hbuilt default (some ⟨"out"⟩) none
    obtain rfl : t = u := Except.ok.inj (ht.symm.trans hu)
    have hsame : s.repository.name = "acme-tools" := Except.ok.inj (hasked.symm.trans hname)
    have hnoxfile : (⟨"out/acme-tools/noxfile.py"⟩ : Path) ∈
        Kind.filesBefore.map (⟨"out/acme-tools"⟩ : Path).joinAll := by decide +kernel
    rw [hpaths, hsame, Kind.files, List.mem_append, List.mem_append, List.mem_append]
    exact Or.inl (Or.inl (Or.inl hnoxfile))
  obtain ⟨content, hcontent, hcontent'⟩ := (hfiles _ hmem).2 (by decide +kernel) (by decide +kernel)
  exact ⟨r, r', t, t', content, hload, hload', ht, ht', hcontent, hcontent'⟩

end Builtin

end Scaffold
