import Mathlib.Data.List.Nodup
import Scaffold.Proofs.Builtin.Rendered
import Scaffold.Proofs.Builtin.Settings
import Scaffold.Proofs.Node.Listing

/-!
# Proofs/Builtin/Files — the files of the built-in recipes

A layout is what stands before the sources, the sources, what stands behind them, and the license
(`Kind.layout_eq`).  But for the license, each part is spread: its files are listed without a look at the
context.  So a layout comes to plans that stand apart (`apart_layout`), its files are those listed
(`files_layout`), and a dry run succeeds and shows them (`exists_dryrun_of_built`).  Their places differ
whatever the name of the package is, as no file of the package has its name with one below the root
(`Kind.nodup_components_files`).
-/

namespace Scaffold.Builtin

namespace Kind

/-! ## The layouts in parts -/

/-- The module with the **descriptions** of a kind. -/
def descriptionModule : Kind → String
  | .package => ingredients
  | .service => apiModule
  | .recipePackage => recipeModuleName

/-- What stands **before** the sources. -/
def before (k : Kind) : List Node := tooling ++ descriptions k.descriptionModule ++ [tests]

/-- The sources next to the one **every package has**. -/
def more : Kind → List Node
  | .package => []
  | .service => serviceSources
  | .recipePackage => recipeSources

/-- What stands **behind** the sources, but for the license. -/
def after : Kind → List Node
  | .service => imageFiles ++ [documentation]
  | _ => [documentation]

/-- **A layout** is what stands before the sources, the sources, what stands behind, and the license. -/
theorem layout_eq (k : Kind) :
    k.layout = k.before ++ sources k.more :: (k.after ++ [License.file]) := by
  cases k <;> rfl

/-! ## The files -/

/-- The files **before** the sources, by the names that lead to them. -/
def filesBefore : List (List String) := [[".gitignore"], ["noxfile.py"], [".pre-commit-config.yaml"],
  ["pyproject.toml"], ["README.md"], ["tests", "unit", "test_placeholder.py"],
  ["tests", "functional", ".git-keep"]]

/-- The files **of the package**, by the names that lead to them. -/
def filesInside : Kind → List (List String)
  | .package => [["__init__.py"]]
  | .service => [["__init__.py"], ["app.py"], ["auth.py"], ["server.py"], ["api", "__init__.py"],
    ["api", "base.py"]]
  | .recipePackage => [["__init__.py"], ["recipe.py"], ["ingredient.py.template"]]

/-- The files of the **documentation**, by the names that lead to them. -/
def filesOfDocs : List (List String) := [["docs", "source", "index.md"],
  ["docs", "source", "usage.md"], ["docs", "source", "developing", "index.md"],
  ["docs", "source", "developing", "license.md"], ["docs", "mkdocs.yml"]]

/-- The files **behind** the sources, by the names that lead to them. -/
def filesAfter : Kind → List (List String)
  | .service => [".dockerignore"] :: ["Dockerfile"] :: filesOfDocs
  | _ => filesOfDocs

/-- **The files** of a kind, in order: those below the root, those of the package below its folder, more
below the root, and that of the license, if there is one. -/
def files (k : Kind) (root package : Path) (license : Option License) : List Path :=
  filesBefore.map root.joinAll ++ k.filesInside.map package.joinAll ++ k.filesAfter.map root.joinAll ++
    (license.map fun l => root.joinName l.filename).toList

/-- The layout before the sources is **spread**, and lists its files. -/
theorem spread_before (k : Kind) :
    Node.areSpread k.before = true ∧ Node.listingAll k.before = filesBefore := by
  cases k <;> decide +kernel

/-- The package is **spread**, and lists its files. -/
theorem spread_inside (k : Kind) : Node.spreadNames (packageFile :: k.more) = true ∧
    Node.areSpread (packageFile :: k.more) = true ∧
      Node.listingAll (packageFile :: k.more) = k.filesInside := by
  cases k <;> decide +kernel

/-- The layout behind the sources is **spread**, and lists its files. -/
theorem spread_after (k : Kind) :
    Node.areSpread k.after = true ∧ Node.listingAll k.after = k.filesAfter := by
  cases k <;> decide +kernel

/-- What stands below the root, but for the license, has **different names**, and none of them is that of a
license. -/
theorem spread_names (k : Kind) : Node.spreadNames (k.before ++ sources k.more :: k.after) = true ∧
    ∀ l ∈ License.all, ∀ n ∈ k.before ++ sources k.more :: k.after,
      n.name.static? ≠ some l.filename := by
  cases k <;> decide +kernel

/-- All sources but that of the license are **built in**. -/
theorem isBuiltin_sources (k : Kind) : (∀ x ∈ Node.sourcesAll k.before, isBuiltin x = true) ∧
    (∀ x ∈ Node.sourcesAll (packageFile :: k.more), isBuiltin x = true) ∧
      ∀ x ∈ Node.sourcesAll k.after, isBuiltin x = true := by
  cases k <;> simp only [← List.all_eq_true] <;> decide +kernel

end Kind

/-- The name of the file of a license is **plain**. -/
theorem isPlain_filename (l : License) : Path.IsPlain l.filename := by
  cases l <;> decide +kernel

/-- There are no **other licenses**. -/
theorem mem_all (l : License) : l ∈ License.all := by
  cases l <;> decide

variable {k : Kind} {d : Disk} {context : Context} {repository : Repository} {root : Path}

/-! ## What a layout comes to -/

/-- **The license** comes to one file below the root, if there is one. -/
theorem files_license : ((License.file.plan .builtin d context none root).files.map Prod.fst) =
    ((License.ofContext? context).map fun l => root.joinName l.filename).toList := by
  rw [License.file, Node.plan, Node.renderedFile, Node.path, Name.resolve]
  cases hlicense : License.ofContext? context with
  | none => rfl
  | some l =>
    obtain ⟨content, hcontent⟩ := exists_render_license (d := d) hlicense
    simp only [Option.map_some, Except.map, hcontent]
    rfl

/-- The plans of a layout are those of its **parts**. -/
theorem planAll_layout (h : Fields.get? context "repo" = some repository.dump) (k : Kind) (root : Path) :
    Node.planAll .builtin d context root k.layout =
      Node.planAll .builtin d context root k.before ++ .folder (sourceFolder root)
        [.folder (repository.folderIn root) (Node.planAll .builtin d context
          (repository.folderIn root) (packageFile :: k.more))] ::
            (Node.planAll .builtin d context root k.after ++
              [License.file.plan .builtin d context none root]) := by
  rw [← plan_sources h root k.more]
  simp only [k.layout_eq, Node.planAll_eq_map, List.map_append, List.map_cons, List.map_nil]

/-- A layout without the license comes to plans that stand **apart**. -/
theorem apart_unlicensed (h : Fields.get? context "repo" = some repository.dump) (k : Kind)
    (root : Path) : Plan.ApartAll (Node.planAll .builtin d context root
      (k.before ++ sources k.more :: k.after)) := by
  obtain ⟨hinsideNames, hinside, -⟩ := k.spread_inside
  refine Node.apartAll_of_spreadNames k.spread_names.1 fun n hn => ?_
  rcases List.mem_append.mp hn with hn | hn
  · exact Node.apart_of_areSpread k.spread_before.1 n hn
  rcases List.mem_cons.mp hn with rfl | hn
  · rw [plan_sources h]
    exact ⟨Node.apartAll_of_spreadNames hinsideNames (Node.apart_of_areSpread hinside),
      fun _ hx => absurd hx List.not_mem_nil, trivial⟩
  · exact Node.apart_of_areSpread k.spread_after.1 n hn

/-- The license is **elsewhere** than the rest of a layout. -/
theorem elsewhere_license (k : Kind) (root : Path) : ∀ n ∈ k.before ++ sources k.more :: k.after,
    (n.plan .builtin d context none root).Elsewhere
      (License.file.plan .builtin d context none root) := by
  refine fun n hn => Node.elsewhere_of_names fun s t hs ht => ?_
  have hplain := Node.isPlain_of_spreadNames k.spread_names.1 n hn
  obtain ⟨l, -, rfl⟩ := Option.map_eq_some_iff.mp (Except.ok.inj ht)
  refine ⟨Name.isPlain_of_resolve hplain s hs, isPlain_filename l, ?_⟩
  rintro rfl
  exact k.spread_names.2 l (mem_all l) n hn (Name.static?_of_resolve hplain hs)

/-- **A layout** comes to plans that stand apart. -/
theorem apart_layout (h : Fields.get? context "repo" = some repository.dump) (k : Kind) (root : Path) :
    Plan.ApartAll (Node.planAll .builtin d context root k.layout) := by
  have hlayout : Node.planAll .builtin d context root k.layout = Node.planAll .builtin d context root
      (k.before ++ sources k.more :: k.after) ++ [License.file.plan .builtin d context none root] := by
    simp [k.layout_eq, Node.planAll_eq_map]
  obtain ⟨heach, hpairs⟩ := Plan.apartAll_iff.mp (apart_unlicensed (d := d) h k root)
  rw [hlayout, Plan.apartAll_iff, List.forall_mem_append, List.forall_mem_singleton,
    List.pairwise_append]
  refine ⟨⟨heach, Node.apart_file⟩, hpairs, List.pairwise_singleton _ _, ?_⟩
  rw [Node.planAll_eq_map, List.forall_mem_map]
  simp only [List.mem_singleton, forall_eq]
  exact elsewhere_license k root

/-- **The files of a layout** are those of its kind. -/
theorem files_layout (h : Fields.get? context "repo" = some repository.dump)
    (hrecords : ∀ x ∈ records, Fields.has context x = true) (k : Kind) (root : Path) :
    (Plan.filesAll (Node.planAll .builtin d context root k.layout)).map Prod.fst =
      k.files root (repository.folderIn root) (License.ofContext? context) := by
  obtain ⟨hbefore, hinside, hafter⟩ := k.isBuiltin_sources
  have hrender : ∀ {x : Source}, isBuiltin x = true →
      ∃ content, x.render .builtin d context = .ok (some content) := exists_render_source hrecords
  rw [planAll_layout h, Plan.filesAll_append, Plan.filesAll_cons, Plan.filesAll_append,
    Plan.files_folder, Plan.filesAll_cons, Plan.files_folder]
  simp only [List.map_append]
  rw [Node.filesAll_of_areSpread _ k.spread_before.1 fun x hx => hrender (hbefore x hx),
    Node.filesAll_of_areSpread _ k.spread_inside.2.1 fun x hx => hrender (hinside x hx),
    Node.filesAll_of_areSpread _ k.spread_after.1 fun x hx => hrender (hafter x hx),
    k.spread_before.2, k.spread_inside.2.2, k.spread_after.2, Plan.filesAll_cons, List.map_append,
    files_license]
  simp [Kind.files, Plan.filesAll, Plan.dueAll]

/-! ## Dry runs -/

/-- The names of the sources are those of **two folders** and of the package. -/
theorem names_sources (more : List Node) : (sources more).names =
    .ofString "src" :: .ofString "\x7b\x7brepo.src_path\x7d\x7d" ::
      Node.namesAll (packageFile :: more) := by
  simp [sources, folder, Node.withId, Node.names, Node.namesAll, packageFile]

/-- The sources of the files among the sources are those **of the package**. -/
theorem sources_sources (more : List Node) :
    (sources more).sources = Node.sourcesAll (packageFile :: more) := by
  simp [sources, folder, Node.withId, Node.sources, Node.sourcesAll, packageFile]

/-- All names of a layout **resolve** where the context has the repository. -/
theorem isOk_names_layout (h : Fields.get? context "repo" = some repository.dump) (k : Kind) :
    ∀ x ∈ Node.namesAll k.layout, (x.resolve .builtin d context).isOk = true := by
  simp only [k.layout_eq, Node.namesAll_eq_flatMap, List.flatMap_append, List.flatMap_cons,
    List.flatMap_nil, List.append_nil, List.forall_mem_append]
  simp only [← Node.namesAll_eq_flatMap]
  refine ⟨Node.isOk_names_of_areSpread k.spread_before.1, ?_,
    Node.isOk_names_of_areSpread k.spread_after.1, ?_⟩
  · rw [names_sources, List.forall_mem_cons, List.forall_mem_cons, resolve_packageFolder h,
      Name.ofString_of_not_isTemplate (by decide +kernel)]
    exact ⟨rfl, rfl, Node.isOk_names_of_areSpread k.spread_inside.2.1⟩
  · intro x hx
    obtain rfl := List.mem_singleton.mp hx
    rfl

/-- **A built-in source** renders where the context has the records. -/
theorem isOk_render_source (hrecords : ∀ x ∈ records, Fields.has context x = true) {x : Source}
    (hx : isBuiltin x = true) : (x.render .builtin d context).isOk = true := by
  obtain ⟨content, hcontent⟩ := exists_render_source (d := d) hrecords hx
  rw [hcontent]
  rfl

/-- **The license** renders, or comes to nothing if there is none. -/
theorem isOk_render_license : ∀ x ∈ License.file.sources, (x.render .builtin d context).isOk = true := by
  intro x hx
  obtain rfl := List.mem_singleton.mp hx
  cases hlicense : License.ofContext? context with
  | none =>
    rw [Source.render, Source.resolve, hlicense]
    rfl
  | some l =>
    obtain ⟨content, hcontent⟩ := exists_render_license (d := d) hlicense
    rw [hcontent]
    rfl

/-- All sources of a layout **render** where the context has the records. -/
theorem isOk_sources_layout (hrecords : ∀ x ∈ records, Fields.has context x = true) (k : Kind) :
    ∀ x ∈ Node.sourcesAll k.layout, (x.render .builtin d context).isOk = true := by
  obtain ⟨hbefore, hinside, hafter⟩ := k.isBuiltin_sources
  simp only [k.layout_eq, Node.sourcesAll_eq_flatMap, List.flatMap_append, List.flatMap_cons,
    List.flatMap_nil, List.append_nil, List.forall_mem_append]
  simp only [← Node.sourcesAll_eq_flatMap, sources_sources]
  exact ⟨fun x hx => isOk_render_source hrecords (hbefore x hx),
    fun x hx => isOk_render_source hrecords (hinside x hx),
    fun x hx => isOk_render_source hrecords (hafter x hx), isOk_render_license⟩

/-- The license of the settings is the one **their data chooses**. -/
theorem ofContext?_of_license {license : Option License}
    (h : Fields.get? context "license" = some (Json.ofOption (license.map License.id))) :
    License.ofContext? context = license := by
  rw [License.ofContext?, h]
  cases license with
  | none => rfl
  | some l => cases l <;> rfl

/-- A context that **presents** settings: it has what the layouts read of them. -/
structure Presents (context : Context) (s : Settings) : Prop where
  repository : Fields.get? context "repo" = some s.repository.dump
  records : ∀ x ∈ records, Fields.has context x = true
  license : License.ofContext? context = s.license

variable {s : Settings} {r : Recipe}

/-- A recipe of a kind has a context, and it **presents** the settings. -/
theorem Kind.Built.exists_presents (hbuilt : k.Built s r) :
    ∃ context, r.combined [] = .ok context ∧ Presents context s := by
  obtain ⟨context, hcontext⟩ : ∃ context, r.combined [] = .ok context := by
    rw [Recipe.combined, Recipe.context, hbuilt.declared]
    exact ⟨_, rfl⟩
  have hrepo := hbuilt.get?_context hcontext s.member?_dump (by decide)
  have hgit : Fields.get? context "git" = some s.branching.dump :=
    hbuilt.get?_context hcontext (Json.member?_object (by simp) (by simp)) (by decide)
  have hlicense : Fields.get? context "license" = some (Json.ofOption (s.license.map License.id)) :=
    hbuilt.get?_context hcontext (Json.member?_object (by simp) (by simp)) (by decide)
  exact ⟨context, hcontext, hrepo, by simp [records, Fields.has, hrepo, hgit],
    ofContext?_of_license hlicense⟩

/-- A recipe of a kind **has a dry run**. -/
theorem Kind.Built.exists_dryrun (hbuilt : k.Built s r) (hcontext : r.combined [] = .ok context)
    (h : Presents context s) (d : Disk) (base override : Option Path) :
    ∃ t, r.dryrun d base override [] = .ok t := by
  refine Recipe.exists_dryrun_of_isOk hcontext ?_ ?_
  · rw [Folder.toNode, Node.names, hbuilt.root, hbuilt.contents, hbuilt.renderer]
    exact List.forall_mem_cons.mpr ⟨rfl, isOk_names_layout h.repository k⟩
  · rw [Folder.toNode, Node.sources, hbuilt.contents, hbuilt.renderer]
    exact isOk_sources_layout h.records k

/-- **A dry run** of a recipe of a kind renders the files that its layout comes to. -/
theorem Kind.Built.exists_files (hbuilt : k.Built s r) (hcontext : r.combined [] = .ok context)
    (h : Presents context s) (d : Disk) (base override : Option Path) :
    ∃ t, r.dryrun d base override [] = .ok t ∧ Tree.files t = Plan.filesAll (Node.planAll .builtin d
      context ((Recipe.baseOf d base).join (override.getD ⟨s.repository.name⟩)) k.layout) := by
  obtain ⟨t, ht⟩ := hbuilt.exists_dryrun hcontext h d base override
  refine ⟨t, ht, ?_⟩
  rw [Recipe.dryrun, hcontext] at ht
  simp only at ht
  rw [Node.preview_eq_plan, Plan.answer_eq_ok, Folder.toNode, Node.plan, hbuilt.path_root,
    hbuilt.contents, hbuilt.renderer] at ht
  obtain ⟨-, rfl⟩ := ht
  generalize (Recipe.baseOf d base).join (override.getD ⟨s.repository.name⟩) = root
  have happart : (Plan.folder root (Node.planAll .builtin d context root k.layout)).Apart :=
    apart_layout h.repository k root
  exact (Plan.files_tree happart).trans (Plan.files_folder _ _)

/-- The files that a layout comes to are **those of its kind**. -/
theorem Presents.filePaths (h : Presents context s) {t : Tree}
    (ht : Tree.files t = Plan.filesAll (Node.planAll .builtin d context root k.layout)) :
    Tree.filePaths t = k.files root (s.repository.folderIn root) s.license := by
  rw [Tree.filePaths_eq_map, ht, files_layout h.repository h.records, h.license]

/-- **A dry run** of a recipe of a kind renders its files. -/
theorem exists_dryrun_of_built (hbuilt : k.Built s r) (d : Disk) (base override : Option Path) :
    ∃ t, r.dryrun d base override [] = .ok t ∧ Tree.filePaths t =
      k.files ((Recipe.baseOf d base).join (override.getD ⟨s.repository.name⟩))
        (s.repository.folderIn ((Recipe.baseOf d base).join (override.getD ⟨s.repository.name⟩)))
          s.license := by
  obtain ⟨context, hcontext, h⟩ := hbuilt.exists_presents
  obtain ⟨t, ht, hfiles⟩ := hbuilt.exists_files hcontext h d base override
  exact ⟨t, ht, h.filePaths hfiles⟩

/-! ## Different files -/

namespace Kind

/-- The files of a kind by the names that lead to them, from the **package** or from the root. -/
def places (k : Kind) (license : Option License) : List (Bool × List String) :=
  filesBefore.map (false, ·) ++ k.filesInside.map (true, ·) ++ k.filesAfter.map (false, ·) ++
    (license.map fun l => (false, [l.filename])).toList

/-- The files of a kind are **at these places**. -/
theorem files_eq_places (k : Kind) (root package : Path) (license : Option License) :
    k.files root package license =
      (k.places license).map fun x => (if x.1 then package else root).joinAll x.2 := by
  cases license with
  | none => simp [files, places, Function.comp_def]
  | some l =>
    have hname : root.joinAll [l.filename] = root.joinName l.filename := rfl
    simp [files, places, Function.comp_def, hname]

/-- The places are **different**, their names are plain, and no file of the package has its name with one
that is not. -/
theorem places_distinct (k : Kind) (license : Option License) : (k.places license).Nodup ∧
    (∀ x ∈ k.places license, x.2 ≠ [] ∧ ∀ name ∈ x.2, Path.IsPlain name) ∧
      ∀ x ∈ k.places license, ∀ y ∈ k.places license, x.1 ≠ y.1 → x.2.getLast? ≠ y.2.getLast? := by
  have hall : ∀ license ∈ none :: License.all.map some, (k.places license).Nodup ∧
      (∀ x ∈ k.places license, x.2 ≠ [] ∧ ∀ name ∈ x.2, Path.IsPlain name) ∧
        ∀ x ∈ k.places license, ∀ y ∈ k.places license, x.1 ≠ y.1 → x.2.getLast? ≠ y.2.getLast? := by
    cases k <;> decide +kernel
  refine hall license ?_
  cases license with
  | none => exact List.mem_cons_self
  | some l => exact List.mem_cons_of_mem _ (List.mem_map_of_mem (mem_all l))

/-- **The files** of a kind lead to different places, whatever the root and the package. -/
theorem nodup_components_files (k : Kind) (root package : Path) (license : Option License) :
    ((k.files root package license).map Path.components).Nodup := by
  obtain ⟨hnodup, hplain, hlast⟩ := k.places_distinct license
  have hcomponents : ∀ x ∈ k.places license,
      ((if x.1 then package else root).joinAll x.2).components =
        (if x.1 then package else root).components ++ x.2.map .name := fun x hx =>
    Path.components_joinAll (hplain x hx).2 _
  rw [files_eq_places, List.map_map]
  refine List.Nodup.map_on (fun x hx y hy hsame => ?_) hnodup
  simp only [Function.comp_apply, hcomponents x hx, hcomponents y hy] at hsame
  by_cases hside : x.1 = y.1
  · rw [hside, List.append_cancel_left_eq] at hsame
    have hnames := (List.map_injective_iff.mpr fun _ _ => Component.name.inj) hsame
    exact Prod.ext hside hnames
  · -- whatever the two folders are, the last names differ
    refine absurd ?_ (hlast x hx y hy hside)
    have hends := congrArg List.getLast? hsame
    have hx' := List.getLast?_eq_some_getLast (hplain x hx).1
    have hy' := List.getLast?_eq_some_getLast (hplain y hy).1
    rw [List.getLast?_append, List.getLast?_append, List.getLast?_map, List.getLast?_map, hx', hy']
      at hends
    rw [hx', hy']
    exact congrArg some (Component.name.inj (Option.some.inj hends))

end Kind

/-! ## What is loaded -/

/-- **Every accepted recipe renders, with exactly its layout.**  Whatever the arguments a built-in recipe is
loaded from, and whatever the base, its dry run succeeds.  The files it shows are those of its kind, in
order: the package behind the folder for sources, at the parts of the name joined by slashes; and at the
end the file of the license, if the arguments give one.  All of them are at different places. -/
theorem dryrun_lists_files {year : Int} {key : String} {given : Fields} {r : Recipe}
    (hload : (Recipe.load (RecipeDefinition.builtin year) key given).1 = .ok r) (d : Disk)
    (base override : Option Path) :
    ∃ (k : Kind) (name : String) (declared : Repository) (license : Option License) (t : Tree),
      key = k.name ∧ RecipeDefinition.nameOf given = .ok name ∧
        Decode.need given "repo" Repository.decode = .ok declared ∧
          Decode.may given "license" (Decode.optional License.decode) none = .ok license ∧
            r.dryrun d base override [] = .ok t ∧
              Tree.filePaths t =
                k.files ((Recipe.baseOf d base).join (override.getD ⟨name⟩))
                  (((Recipe.baseOf d base).join (override.getD ⟨name⟩)).joinName "src" |>.joinName
                    (Text.join "/" { declared with name := name }.parts))
                  license ∧
                ((Tree.filePaths t).map Path.components).Nodup := by
  obtain ⟨k, name, s, hkey, hname, hdecode, hbuilt⟩ := Recipe.exists_decoded_of_load hload
  have hread : Settings.ReadFrom year given s :=
    (Settings.readFrom_erase (by decide)).mp ((Settings.readFrom_erase (by decide)).mp
      (Settings.readFrom_of_decode hdecode))
  obtain ⟨t, ht, hfiles⟩ := exists_dryrun_of_built hbuilt d base override
  exact ⟨k, name, s.repository, s.license, t, hkey, hname, hread.repository, hread.license, ht, hfiles,
    hfiles ▸ k.nodup_components_files _ _ _⟩

/-- Arguments for a package with a separator in its name and a license. -/
def licensedPackage : Fields :=
  [("license", .str "mit"), ("name", .str "acme-tools"),
    ("repo", .obj [("email", .str "jane@example.com"), ("owner", .str "Jane"),
      ("url", .str "https://example.com/jane/repo")])]

theorem dryrun_lists_files_licensedPackage : ∃ r t,
    (Recipe.load (RecipeDefinition.builtin 2024) "python_package" licensedPackage).1 = .ok r ∧
      r.dryrun default (some ⟨"out"⟩) none [] = .ok t ∧
        (Tree.filePaths t).map Path.text = ["out/acme-tools/.gitignore", "out/acme-tools/noxfile.py",
          "out/acme-tools/.pre-commit-config.yaml", "out/acme-tools/pyproject.toml",
          "out/acme-tools/README.md", "out/acme-tools/tests/unit/test_placeholder.py",
          "out/acme-tools/tests/functional/.git-keep", "out/acme-tools/src/acme/tools/__init__.py",
          "out/acme-tools/docs/source/index.md", "out/acme-tools/docs/source/usage.md",
          "out/acme-tools/docs/source/developing/index.md",
          "out/acme-tools/docs/source/developing/license.md", "out/acme-tools/docs/mkdocs.yml",
          "out/acme-tools/LICENSE"] := by
  have hok : (Recipe.load (RecipeDefinition.builtin 2024) "python_package" licensedPackage).1.isOk =
      true := by decide +kernel
  obtain ⟨r, hload⟩ := exists_of_isOk hok
  obtain ⟨k, name, declared, license, t, hkey, hname, hdeclared, hlicense, hdryrun, hfiles, -⟩ :=
    dryrun_lists_files hload default (some ⟨"out"⟩) none
  obtain rfl : k = .package := by cases k <;> revert hkey <;> decide
  obtain rfl : "acme-tools" = name := Except.ok.inj hname
  obtain rfl : some License.mit = license := Except.ok.inj hlicense
  obtain rfl : Repository.ofOwner "Jane" "jane@example.com" "https://example.com/jane/repo" = declared :=
    Except.ok.inj hdeclared
  refine ⟨r, t, hload, hdryrun, ?_⟩
  rw [hfiles]
  decide +kernel

end Scaffold.Builtin
