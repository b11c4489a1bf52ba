import Scaffold.Proofs.Builtin.Files

/-!
# Proofs/Builtin/Contained — what is rendered stays below the root

If the path of a package leads inward, all that a built-in recipe renders is below its root, and all
sources are below the folder for them (`LaidOut.keepsInside`).  A relative path that goes up leads out
of it, and an absolute one out of a relative root (`LaidOut.inward`).  Nothing checks the name: with
the separator in front the path is absolute.
-/

namespace Scaffold.Builtin

variable {repository : Repository} {root : Path} {t : Tree}

/-- What is rendered **keeps inside** a root: all of it is below the root, and all files among the
sources are below their folder. -/
structure KeepsInside (root : Path) (t : Tree) : Prop where
  below : Tree.StaysBelow root t
  sources : ∀ inside, Tree.get? t (sourceFolder root) = some (.folder inside) →
    ∀ q ∈ Tree.filePaths inside, q.Below (sourceFolder root)

/-- **An inward path** of the package keeps what is rendered inside. -/
theorem LaidOut.keepsInside (h : LaidOut repository root t)
    (hinward : Path.Inward repository.sourcePath) : KeepsInside root t := by
  have hpackage : (repository.folderIn root).Within (sourceFolder root) :=
    hinward.within (Path.isEmpty_joinName isPlain_src root)
  constructor
  · intro q hq
    rcases h.others q hq with hq | hq
    · exact hq
    · exact hq.trans_below (hpackage.trans_below (below_sourceFolder root))
  · intro inside hinside q hq
    obtain ⟨files, hfiles, hbelow⟩ := h.sources
    obtain rfl := Rendered.folder.inj (Option.some.inj (hinside.symm.trans hfiles))
    rw [Tree.filePaths, Tree.filePaths, List.append_nil, Tree.pathsIn] at hq
    exact (hbelow q (Tree.mem_keys_of_file hq)).trans_within hpackage

/-- What is rendered keeps inside only if the path of the package **leads inward**, unless both that
path and the root are absolute. -/
theorem LaidOut.inward (h : LaidOut repository root t)
    (hrelative : (⟨repository.sourcePath⟩ : Path).isAbsolute = false ∨ root.isAbsolute = false)
    (hinside : KeepsInside root t) : Path.Inward repository.sourcePath := by
  have hwithin := (hinside.below _ h.mem_keys).within
  have hpath : (⟨repository.sourcePath⟩ : Path).isAbsolute = false := by
    rcases hrelative with hpath | hroot
    · exact hpath
    · rw [← Bool.not_eq_true]
      intro habsolute
      rw [Repository.folderIn, Path.joinName_of_absolute habsolute] at hwithin
      rw [hwithin.isAbsolute habsolute] at hroot
      simp at hroot
  have hpackage := Path.within_of_joinName isPlain_src hpath hwithin
  have hne := Path.isEmpty_joinName isPlain_src root
  exact ⟨hpath, (Path.within_joinName_iff hne hpath).mp hpackage⟩

/-- **The dry run of a built-in recipe** renders its layout below one root.  It keeps inside if the path
of the package leads inward, and, unless both that path and the root are absolute, only then; an
absolute path takes the package where it says. -/
theorem dryrun_contained {year : Int} {key : String} {given : Fields} {r : Recipe} {d : Disk}
    {base override : Option Path} {t : Tree}
    (hload : (Recipe.load (RecipeDefinition.builtin year) key given).1 = .ok r)
    (hdryrun : r.dryrun d base override [] = .ok t) :
    ∃ (repository : Repository) (root : Path) (children : Tree),
      (RecipeDefinition.nameOf given = .ok repository.name ∧ repository.check = .ok () ∧
        r.declared.member? "repo" = some repository.dump) ∧
      t = [(root, .folder children)] ∧
      root = (Recipe.baseOf d base).join (override.getD ⟨repository.name⟩) ∧
      LaidOut repository root children ∧
      (Path.Inward repository.sourcePath → KeepsInside root children) ∧
      ((⟨repository.sourcePath⟩ : Path).isAbsolute = false ∨ root.isAbsolute = false →
        KeepsInside root children → Path.Inward repository.sourcePath) ∧
      ((⟨repository.sourcePath⟩ : Path).isAbsolute = true →
        repository.folderIn root = ⟨repository.sourcePath⟩) := by
  obtain ⟨k, s, -, hname, hbuilt⟩ := Recipe.exists_built_of_load hload
  obtain ⟨children, htree, hlaid⟩ := exists_laidOut_of_dryrun hbuilt hdryrun
  have hdeclared : r.declared.member? "repo" = some s.repository.dump := by
    rw [hbuilt.declared]
    exact s.member?_dump
  exact ⟨s.repository, _, children, ⟨hname, hbuilt.checked, hdeclared⟩, htree, rfl, hlaid,
    hlaid.keepsInside, hlaid.inward, fun habsolute => Path.joinName_of_absolute habsolute _⟩

/-! ## Two packages -/

/-- Arguments for a package with a name. -/
def packageArguments (name : String) : Fields :=
  [("name", .str name), ("repo", .obj [("email", .str "jane@example.com"), ("owner", .str "Jane"),
    ("url", .str "https://example.com/jane/repo")])]

/-- A name with a separator in it, and one with the separator **in front**. -/
def packageNames : List String := ["acme-tools", "-acme"]

/-- What is loaded for a name. -/
def loaded (name : String) : Except Error Recipe :=
  (Recipe.load (RecipeDefinition.builtin 2024) Kind.package.name (packageArguments name)).1

/-- The arguments are accepted. -/
theorem isOk_loaded : ∀ name ∈ packageNames, (loaded name).isOk = true := by decide +kernel

/-- Both packages have a **dry run**. -/
theorem exists_dryrun {name : String} (hname : name ∈ packageNames) (base : Option Path) :
    ∃ r t, loaded name = .ok r ∧ r.dryrun default base none [] = .ok t := by
  obtain ⟨r, hload⟩ := exists_of_isOk (isOk_loaded name hname)
  obtain ⟨k, s, -, -, hbuilt⟩ := Recipe.exists_built_of_load hload
  obtain ⟨t, ht, -⟩ := exists_dryrun_of_built hbuilt default base none
  exact ⟨r, t, hload, ht⟩

/-- The path of the package, as a recipe has **declared** it. -/
def declaredPath (r : Recipe) : Option String :=
  ((r.declared.member? "repo").bind (·.member? "src_path")).bind Json.str?

/-- The declared path is that of the **repository**. -/
theorem sourcePath_of_loaded {name path : String} {r : Recipe} (hload : loaded name = .ok r)
    (h : r.declared.member? "repo" = some repository.dump)
    (hpath : (loaded name).toOption.bind declaredPath = some path) :
    repository.sourcePath = path := by
  have hdeclared : declaredPath r = some repository.sourcePath := by
    rw [declaredPath, h, Option.bind_some, repository.member?_dump]
    rfl
  rw [hload] at hpath
  exact Option.some.inj (hdeclared.symm.trans hpath)

/-- An inward path: all of the package `acme-tools` **keeps inside**. -/
theorem dryrun_contained_acmeTools : ∃ r t, loaded "acme-tools" = .ok r ∧
    r.dryrun default (some ⟨"out"⟩) none [] = .ok t ∧ ∃ root children,
      t = [(root, .folder children)] ∧ KeepsInside root children := by
  have hsample : "acme-tools" ∈ packageNames := by decide
  obtain ⟨r, t, hload, hdryrun⟩ := exists_dryrun hsample (some ⟨"out"⟩)
  obtain ⟨repository, root, children, ⟨-, -, hdeclared⟩, htree, -, -, hkeeps, -⟩ :=
    dryrun_contained hload hdryrun
  have hpath : repository.sourcePath = "acme/tools" :=
    sourcePath_of_loaded hload hdeclared (by decide +kernel)
  have hinward : Path.Inward repository.sourcePath := by
    rw [hpath]
    decide +kernel
  exact ⟨r, t, hload, hdryrun, root, children, htree, hkeeps hinward⟩

/-- A separator in front: the package `-acme` stands at the **root of the disk**, outside of the root of
the recipe. -/
theorem dryrun_escapes_leadingSeparator : ∃ r children, loaded "-acme" = .ok r ∧
    r.dryrun default (some ⟨"out"⟩) none [] = .ok [(⟨"out/-acme"⟩, .folder children)] ∧
      ⟨"/acme"⟩ ∈ Tree.keys children ∧ ¬KeepsInside ⟨"out/-acme"⟩ children := by
  have hsample : "-acme" ∈ packageNames := by decide
  obtain ⟨r, t, hload, hdryrun⟩ := exists_dryrun hsample (some ⟨"out"⟩)
  obtain ⟨k, s, -, hname, hbuilt⟩ := Recipe.exists_built_of_load hload
  obtain ⟨children, rfl, hlaid⟩ := exists_laidOut_of_dryrun hbuilt hdryrun
  have hpath : s.repository.sourcePath = "/acme" :=
    sourcePath_of_loaded hload (hbuilt.declared ▸ s.member?_dump) (by decide +kernel)
  have hroot : (Recipe.baseOf default (some ⟨"out"⟩)).join ((none : Option Path).getD
      ⟨s.repository.name⟩) = ⟨"out/-acme"⟩ := by
    have hasked : "-acme" = s.repository.name := Except.ok.inj hname
    rw [← hasked]
    decide +kernel
  rw [hroot] at hlaid hdryrun
  have hkey : (⟨"/acme"⟩ : Path) ∈ Tree.keys children := by
    have hfolder : s.repository.folderIn ⟨"out/-acme"⟩ = ⟨"/acme"⟩ := by
      rw [Repository.folderIn, hpath]
      exact Path.joinName_of_absolute (by decide +kernel) _
    exact hfolder ▸ hlaid.mem_keys
  refine ⟨r, children, hload, hdryrun, hkey, fun hinside => ?_⟩
  have hinward := hlaid.inward (Or.inr (by decide +kernel)) hinside
  rw [hpath] at hinward
  exact absurd hinward.relative (by decide +kernel)

end Scaffold.Builtin
