import Scaffold.Proofs.Builtin.Contained
import Scaffold.Proofs.Builtin.Extended

/-!
# Proofs/Builtin/Mirrored — the module of a package and its folder

The module that the files of a package import is the parts of the name joined by dots, and its folder the
parts joined by slashes.  Cut again, both are the parts exactly if no part has a dot or a slash
(`Repository.mirrored_iff`).  Nothing checks that: in a name with a dot, the dot cuts the module but not the
folder.
-/

namespace Scaffold.Builtin

open Template

variable {d : Disk} {context : Context} {repository : Repository} {root : Path}

/-! ## Names and folders -/

/-- A folder that **mirrors** a module: both are cut into the same names, as many as the depth says, and the
first of them is the outermost package. -/
structure Mirrored (packageName packageRoot sourcePath : String) (depth : Nat) : Prop where
  segments : Text.split '.' packageName = Text.split '/' sourcePath
  length : (Text.split '.' packageName).length = depth
  head : (Text.split '.' packageName).head? = some packageRoot

namespace Repository

/-- The name of the package is **cut into the parts** if no part has a dot. -/
theorem split_packageName (h : ∀ part ∈ repository.parts, '.' ∉ part.toList) :
    Text.split '.' repository.packageName = repository.parts :=
  Text.split_join repository.parts_ne_nil h

/-- The path of the package is **cut into the parts** if no part has a slash. -/
theorem split_sourcePath (h : ∀ part ∈ repository.parts, '/' ∉ part.toList) :
    Text.split '/' repository.sourcePath = repository.parts :=
  Text.split_join repository.parts_ne_nil h

/-- **The folder mirrors the module** exactly if no part of the name has a dot or a slash. -/
theorem mirrored_iff (repository : Repository) :
    Mirrored repository.packageName repository.packageRoot repository.sourcePath
      repository.parts.length ↔ ∀ part ∈ repository.parts, '.' ∉ part.toList ∧ '/' ∉ part.toList := by
  constructor
  · intro h part hpart
    have hdots : ∀ part ∈ repository.parts, '.' ∉ part.toList :=
      (Text.length_split_join repository.parts_ne_nil).mp h.length
    have hslashes : ∀ part ∈ repository.parts, '/' ∉ part.toList :=
      (Text.length_split_join repository.parts_ne_nil).mp
        ((congrArg List.length h.segments).symm.trans h.length)
    exact ⟨hdots part hpart, hslashes part hpart⟩
  · intro h
    have hname := split_packageName fun part hpart => (h part hpart).1
    have hpath := split_sourcePath fun part hpart => (h part hpart).2
    obtain ⟨first, rest, hparts⟩ := List.exists_cons_of_ne_nil repository.parts_ne_nil
    refine ⟨hname.trans hpath.symm, congrArg List.length hname, ?_⟩
    rw [hname, packageRoot, hparts]
    rfl

end Repository

/-! ## What is imported -/

/-- The name of the package is a **member** of the data of the repository. -/
theorem Repository.packageName_dump (repository : Repository) :
    repository.dump.member? "py_name" = some (.str repository.packageName) :=
  Json.member?_object (by simp) (by simp)

/-- The test that a package starts with **imports the package**. -/
theorem render_placeholderTest (h : Fields.get? context "repo" = some repository.dump) :
    Renderer.builtin.render d placeholderTest context = .ok
      ("import " ++ repository.packageName ++ "\n\n\ndef test_placeholder():\n    pass\n") := by
  have hscan : Token.scan placeholderTest = .ok [.text "import ", .openPrint, .name "repo", .dot,
      .name "py_name", .closePrint, .text "\n\n\ndef test_placeholder():\n    pass\n"] := by
    decide +kernel
  have hparse : parse placeholderTest = .ok [.text "import ", .print (.attr (.var "repo") "py_name"),
      .text "\n\n\ndef test_placeholder():\n    pass\n"] := by
    rw [parse, hscan]
    rfl
  have hctx : ∀ x ∈ ["repo"], Fields.has context x = true := by simp [Fields.has, h]
  rw [Renderer.render_of_ok (render_of_areFlat hparse rfl hctx)]
  simp only [writtenAll, Stmt.written, valueIn_attribute h repository.packageName_dump, Value.text,
    String.append_empty, String.append_assoc]

/-- **The tests** come to the one that a package starts with. -/
theorem mem_files_tests {s : String}
    (h : Renderer.builtin.render d placeholderTest context = .ok s) :
    (root.joinAll ["tests", "unit", "test_placeholder.py"], .text s) ∈
      (tests.plan .builtin d context none root).files := by
  have hname : ∀ s ∈ ["tests", "unit", "test_placeholder.py"], Name.ofString s = .literal s :=
    fun s hs => Name.ofString_of_not_isTemplate (by revert s; decide +kernel)
  rw [tests, folder, hname "tests" (by simp), Node.mem_files_folder]
  refine ⟨_, List.mem_cons_self, ?_⟩
  rw [folder, hname "unit" (by simp), Node.mem_files_folder]
  refine ⟨_, List.mem_cons_self, ?_⟩
  rw [textFile, hname "test_placeholder.py" (by simp), Node.mem_files_file]
  refine ⟨rfl, ?_⟩
  rw [Source.render, Source.resolve]
  simp only [h]
  rfl

/-! ## What is loaded -/

/-- Only a separator that **is not empty** passes the check. -/
theorem Repository.separator_ne_of_check (h : repository.check = .ok ()) :
    repository.separator ≠ "" := by
  rintro hempty
  simp [check, hempty] at h

/-- The file that every package starts with is **in its folder**. -/
theorem Kind.packageFile_mem_files (k : Kind) (root package : Path) (license : Option License) :
    package.joinName "__init__.py" ∈ k.files root package license := by
  have hinside : package.joinName "__init__.py" ∈ Kind.package.files root package license := by
    simp [files, filesInside, Path.joinAll]
  exact k.files_package_subset _ _ _ hinside

/-- **The package folder and the module name.**  Whatever arguments a built-in recipe is loaded from, the
test it writes imports the module, and the package is written to the folder, that its data names.  The
folder mirrors the module exactly if no part of the name has a dot or a slash, which nothing checks. -/
theorem package_mirrors_module {year : Int} {key : String} {given : Fields} {r : Recipe}
    (hload : (Recipe.load (RecipeDefinition.builtin year) key given).1 = .ok r) (d : Disk)
    (base override : Option Path) :
    ∃ (repository : Repository) (data : Json) (root : Path) (t : Tree),
      RecipeDefinition.nameOf given = .ok repository.name ∧ repository.separator ≠ "" ∧
      (r.declared.member? "repo" = some data ∧
        data.member? "repo_separator" = some (.str repository.separator) ∧
        data.member? "py_name" = some (.str repository.packageName) ∧
        data.member? "py_root" = some (.str repository.packageRoot) ∧
        data.member? "src_path" = some (.str repository.sourcePath) ∧
        data.member? "module_depth" = some (.int repository.parts.length)) ∧
      (Mirrored repository.packageName repository.packageRoot repository.sourcePath
        repository.parts.length ↔ ∀ part ∈ repository.parts, '.' ∉ part.toList ∧ '/' ∉ part.toList) ∧
      root = (Recipe.baseOf d base).join (override.getD ⟨repository.name⟩) ∧
      r.dryrun d base override [] = .ok t ∧
      Tree.findContent (root.joinAll ["tests", "unit", "test_placeholder.py"]) t = some
        (.text ("import " ++ repository.packageName ++ "\n\n\ndef test_placeholder():\n    pass\n")) ∧
      ((root.joinName "src").joinName repository.sourcePath).joinName "__init__.py" ∈
        Tree.filePaths t := by
  obtain ⟨k, s, -, hname, hbuilt⟩ := Recipe.exists_built_of_load hload
  obtain ⟨context, hcontext, hpresents⟩ := hbuilt.exists_presents
  obtain ⟨t, ht, hfiles⟩ := hbuilt.exists_files hcontext hpresents d base override
  have hpaths := hpresents.filePaths hfiles
  refine ⟨s.repository, s.repository.dump, _, t, hname, Repository.separator_ne_of_check hbuilt.checked,
    ⟨hbuilt.declared ▸ s.member?_dump, Json.member?_object (by simp) (by simp),
      s.repository.packageName_dump, Json.member?_object (by simp) (by simp), s.repository.member?_dump,
      Json.member?_object (by simp) (by simp)⟩, s.repository.mirrored_iff, rfl, ht, ?_, ?_⟩
  · refine Tree.findContent_of_mem (hpaths ▸ k.nodup_components_files _ _ _) ?_
    rw [hfiles, Node.mem_files_planAll]
    exact ⟨tests, subset_layout k (by simp [sharedNodes]),
      mem_files_tests (render_placeholderTest hpresents.repository)⟩
  · rw [hpaths]
    exact k.packageFile_mem_files _ _ _

/-- The repository that is loaded for a name. -/
def namedRepository (name : String) : Repository :=
  { Repository.ofOwner "Jane" "jane@example.com" "https://example.com/jane/repo" with name := name }

/-- What is loaded for a name declares **the repository of that name**. -/
theorem declared_of_loaded {name : String} {r : Recipe} (hload : loaded name = .ok r) :
    r.declared.member? "repo" = some (namedRepository name).dump := by
  obtain ⟨k, asked, s, -, hname, hdecode, hbuilt⟩ := Recipe.exists_decoded_of_load hload
  obtain rfl : name = asked := Except.ok.inj hname
  obtain rfl : Settings.ofRepository (Repository.ofOwner "Jane" "jane@example.com"
      "https://example.com/jane/repo") 2024 = s := Except.ok.inj hdecode
  rw [hbuilt.declared, Settings.member?_dump]
  rfl

/-- The package `acme-tools`: the folder `acme/tools` **mirrors** the module `acme.tools`. -/
theorem package_mirrors_module_acmeTools : ∃ r t, loaded "acme-tools" = .ok r ∧
    r.dryrun default (some ⟨"out"⟩) none [] = .ok t ∧ Mirrored "acme.tools" "acme" "acme/tools" 2 ∧
      Tree.findContent ⟨"out/acme-tools/tests/unit/test_placeholder.py"⟩ t =
        some (.text "import acme.tools\n\n\ndef test_placeholder():\n    pass\n") := by
  obtain ⟨r, hload⟩ := exists_of_isOk (isOk_loaded "acme-tools" (by decide))
  obtain ⟨repository, data, root, t, hasked, -, ⟨hdata, hseparator, -⟩, hmirrored, rfl, ht, htest, -⟩ :=
    package_mirrors_module hload default (some ⟨"out"⟩) none
  have hname : repository.name = "acme-tools" := (Except.ok.inj hasked).symm
  have hdash : repository.separator = "-" := by
    obtain rfl := Option.some.inj (hdata.symm.trans (declared_of_loaded hload))
    exact Json.str.inj (Option.some.inj hseparator.symm)
  have hparts : repository.parts = ["acme", "tools"] := by
    rw [Repository.parts, hname, hdash]
    decide +kernel
  rw [Repository.packageName, Repository.packageRoot, Repository.sourcePath, hparts] at hmirrored
  rw [Repository.packageName, hparts, hname] at htest
  exact ⟨r, t, hload, ht, hmirrored.mpr (by decide), htest⟩

/-- A name with a dot: the module `acme.io` is two names, and its folder `acme.io` **one**. -/
theorem package_misses_module_dottedName : ∃ r data, loaded "acme.io" = .ok r ∧
    r.declared.member? "repo" = some data ∧ data.member? "py_name" = some (.str "acme.io") ∧
      data.member? "py_root" = some (.str "acme.io") ∧
        data.member? "src_path" = some (.str "acme.io") ∧
          data.member? "module_depth" = some (.int 1) ∧
            ¬Mirrored "acme.io" "acme.io" "acme.io" 1 := by
  have hok : (loaded "acme.io").isOk = true := by decide +kernel
  obtain ⟨r, hload⟩ := exists_of_isOk hok
  have hparts : (namedRepository "acme.io").parts = ["acme.io"] := by decide +kernel
  have hdump : (namedRepository "acme.io").dump = Json.object [
      ("repo_separator", .str "-"), ("owner", .str "Jane"), ("email", .str "jane@example.com"),
      ("description", .str ""), ("url", .str "https://example.com/jane/repo"),
      ("name", .str "acme.io"), ("py_name", .str "acme.io"), ("py_root", .str "acme.io"),
      ("src_path", .str "acme.io"), ("module_depth", .int 1)] := by
    rw [Repository.dump, Repository.packageName, Repository.packageRoot, Repository.sourcePath, hparts]
    rfl
  refine ⟨r, _, hload, declared_of_loaded hload, ?_, ?_, ?_, ?_,
    fun h => absurd h.segments (by decide +kernel)⟩
  all_goals exact hdump ▸ Json.member?_object (by simp) (by simp)

end Scaffold.Builtin
