import Scaffold.Proofs.Builtin.Load
import Scaffold.Proofs.Node.Inside
import Scaffold.Proofs.Recipe.Context
import Scaffold.Proofs.Template.Flat

/-!
# Proofs/Builtin/Package — where the built-in recipes put a package

The path of a package is its name, cut at the separator and joined by slashes; where that leads inward
is told by the parts (`Repository.inward_sourcePath`).  The name of the package folder is a template,
and comes to that path (`resolve_packageFolder`); the names of all other files and folders are written out, but for that of
the license.  So what a dry run renders is laid out below its root: the package stands behind the folder
for sources, wherever its path leads from there, and all else is below the root
(`exists_laidOut_of_dryrun`).
-/

namespace Scaffold

/-- **A dry run** renders a tree where all names resolve and all sources render. -/
theorem Recipe.exists_dryrun_of_isOk {r : Recipe} {d : Disk} {base override : Option Path}
    {extra context : Context} (hcontext : r.combined extra = .ok context)
    (hnames : ∀ x ∈ r.root.toNode.names, (x.resolve r.renderer d context).isOk = true)
    (hsources : ∀ x ∈ r.root.toNode.sources, (x.render r.renderer d context).isOk = true) :
    ∃ t, r.dryrun d base override extra = .ok t := by
  rw [dryrun, hcontext]
  simp only
  rw [Node.preview_eq_plan, Node.fault?_plan hnames hsources]
  exact ⟨_, rfl⟩

namespace Builtin

variable {k : Kind} {s : Settings} {r : Recipe} {d : Disk} {context : Context} {base : Path}

/-! ## The path of a package -/

namespace Repository

/-- A name has at least **one part**. -/
theorem parts_ne_nil (r : Repository) : r.parts ≠ [] := by
  rw [parts, Ne, List.map_eq_nil_iff]
  exact Text.splitText_ne_nil _ _

/-- The pieces of the path are **those of the parts**. -/
theorem slices_sourcePath (r : Repository) :
    (⟨r.sourcePath⟩ : Path).slices = r.parts.flatMap fun part => (⟨part⟩ : Path).slices := by
  have hne : r.parts.map String.toList ≠ [] := by simpa using r.parts_ne_nil
  rw [Path.slices, sourcePath, Text.join, String.toList_ofList]
  exact (Text.splitChar_joinWith_eq_flatMap hne).trans (List.flatMap_map _ _ _)

/-- The path is absolute if the first part is, or if it is **empty** and not the only one. -/
theorem isAbsolute_sourcePath {r : Repository} {first : String} {rest : List String}
    (h : r.parts = first :: rest) : (⟨r.sourcePath⟩ : Path).isAbsolute = true ↔
      (⟨first⟩ : Path).isAbsolute = true ∨ first = "" ∧ rest ≠ [] := by
  rw [Path.isAbsolute, Path.isAbsolute, sourcePath, Text.join, String.toList_ofList, h]
  cases rest with
  | nil => simp [Text.joinWith]
  | cons next rest =>
    cases hfirst : first.toList with
    | nil =>
      rw [String.toList_eq_nil_iff] at hfirst
      simp [Text.joinWith, hfirst]
    | cons c cs =>
      have hne : first ≠ "" := by
        rintro rfl
        simp at hfirst
      simp [Text.joinWith, hfirst, hne]

/-- **The path of a package leads inward** if it does not start with an empty part or a slash, and no
part goes up. -/
theorem inward_sourcePath {r : Repository} {first : String} {rest : List String}
    (h : r.parts = first :: rest) : Path.Inward r.sourcePath ↔
      ((⟨first⟩ : Path).isAbsolute = false ∧ (first = "" → rest = [])) ∧
        ∀ part ∈ r.parts, ['.', '.'] ∉ (⟨part⟩ : Path).slices := by
  have habsolute : (⟨r.sourcePath⟩ : Path).isAbsolute = false ↔
      (⟨first⟩ : Path).isAbsolute = false ∧ (first = "" → rest = []) := by
    rw [← Bool.not_eq_true, isAbsolute_sourcePath h, not_or, Bool.not_eq_true, not_and, not_not]
  have hup : (⟨r.sourcePath⟩ : Path).isAbsolute = false →
      (Component.up ∉ (⟨r.sourcePath⟩ : Path).components ↔
        ∀ part ∈ r.parts, ['.', '.'] ∉ (⟨part⟩ : Path).slices) := fun hrelative => by
    rw [Path.up_mem_components hrelative, slices_sourcePath, List.mem_flatMap]
    push Not
    rfl
  constructor
  · exact fun hinward => ⟨habsolute.mp hinward.relative, (hup hinward.relative).mp hinward.never_up⟩
  · exact fun ⟨hfirst, hparts⟩ =>
      ⟨habsolute.mpr hfirst, (hup (habsolute.mpr hfirst)).mpr hparts⟩

end Repository

/-! ## The name of the package folder -/

/-- The path of the package is a **member** of the data of the repository. -/
theorem Repository.member?_dump (repository : Repository) :
    repository.dump.member? "src_path" = some (.str repository.sourcePath) :=
  Json.member?_object (by simp) (by simp)

/-- The repository is a **member** of the data of the settings. -/
theorem Settings.member?_dump (s : Settings) : s.dump.member? "repo" = some s.repository.dump :=
  Json.member?_object (by simp) List.mem_cons_self

/-- **The name of the package folder** comes to the path of the package. -/
theorem resolve_packageFolder {renderer : Renderer} {repository : Repository}
    (h : Fields.get? context "repo" = some repository.dump) :
    (Name.ofString "\x7b\x7brepo.src_path\x7d\x7d").resolve renderer d context =
      .ok (some repository.sourcePath) := by
  have hscan : Template.Token.scan "\x7b\x7brepo.src_path\x7d\x7d" =
      .ok [.openPrint, .name "repo", .dot, .name "src_path", .closePrint] := by rfl
  have hparse : Template.parse "\x7b\x7brepo.src_path\x7d\x7d" =
      .ok [.print (.attr (.var "repo") "src_path")] := by
    rw [Template.parse, hscan]
    rfl
  have hrender : Template.render [] _ context = .ok repository.sourcePath :=
    Template.render_attribute hparse h repository.member?_dump
  have htemplate : isTemplate "\x7b\x7brepo.src_path\x7d\x7d" = true := by decide +kernel
  rw [Name.ofString_of_isTemplate htemplate]
  simp only [Name.resolve, TemplateText.render]
  rw [Renderer.render_of_ok hrender]
  rfl

/-! ## The layouts -/

/-- The file that every package starts with. -/
def packageFile : Node := templateFile "__init__.py" ingredients "__init__.py.template"

/-- **Every layout** has the sources among files and folders with plain names, none of them behind the
sources under the name of their folder, and the license at the end. -/
theorem exists_layout (k : Kind) : ∃ before more after,
    k.layout = before ++ sources more :: (after ++ [License.file]) ∧
      Node.isPlainAll before = true ∧ Node.isPlainAll (packageFile :: more) = true ∧
        Node.isPlainAll after = true ∧ (after.all fun n => n.name.static? != some "src") = true := by
  cases k with
  | package =>
    exact ⟨tooling ++ descriptions ingredients ++ [tests], [], [documentation], rfl,
      by decide +kernel, by decide +kernel, by decide +kernel, by decide +kernel⟩
  | service =>
    exact ⟨tooling ++ descriptions apiModule ++ [tests], serviceSources,
      imageFiles ++ [documentation], rfl, by decide +kernel, by decide +kernel, by decide +kernel,
      by decide +kernel⟩
  | recipePackage =>
    exact ⟨tooling ++ descriptions recipeModuleName ++ [tests], recipeSources, [documentation], rfl,
      by decide +kernel, by decide +kernel, by decide +kernel, by decide +kernel⟩

theorem isPlain_src : Path.IsPlain "src" := by decide +kernel

/-- The file with the license stands **beside** the sources. -/
theorem beside_license {renderer : Renderer} :
    (License.file.plan renderer d context none base).Beside base "src" := by
  have hplain : ∀ l : License, Path.IsPlain l.filename ∧ l.filename ≠ "src" := by
    intro l
    cases l <;> decide +kernel
  have hname : ∀ text, License.file.name.resolve renderer d context = .ok (some text) →
      Path.IsPlain text ∧ text ≠ "src" := by
    intro text htext
    obtain ⟨l, -, rfl⟩ := Option.map_eq_some_iff.mp (Except.ok.inj htext)
    exact hplain l
  exact ⟨Node.staysBelow_file fun text htext => (hname text htext).1,
    Node.apart_of_plan isPlain_src hname⟩

/-! ## What is rendered -/

/-- The folder with the **sources** below a root. -/
def sourceFolder (root : Path) : Path := root.joinName "src"

/-- The folder of the **package** among the sources below a root. -/
def Repository.folderIn (repository : Repository) (root : Path) : Path :=
  (sourceFolder root).joinName repository.sourcePath

/-- What a recipe of a repository renders, **laid out** below a root: the sources are one folder, the
package, with its files below it, and all else is below the root. -/
structure LaidOut (repository : Repository) (root : Path) (t : Tree) : Prop where
  sources : ∃ files, Tree.get? t (sourceFolder root) =
    some (.folder [(repository.folderIn root, .folder files)]) ∧
      Tree.StaysBelow (repository.folderIn root) files
  others : ∀ q ∈ Tree.keys t, q.Below root ∨ q.Within (repository.folderIn root)

variable {repository : Repository} {root : Path} {t : Tree}

/-- The sources are below the root. -/
theorem below_sourceFolder (root : Path) : (sourceFolder root).Below root :=
  Path.below_joinName isPlain_src root

/-- The folder of the package is **among what is rendered**. -/
theorem LaidOut.mem_keys (h : LaidOut repository root t) :
    repository.folderIn root ∈ Tree.keys t := by
  obtain ⟨files, hfiles, -⟩ := h.sources
  obtain ⟨p, -, hsub⟩ := Tree.mem_keys_of_get? hfiles
  refine hsub _ (List.mem_cons_of_mem _ ?_)
  rw [Tree.keys_singleton]
  exact Tree.self_mem_keysIn _ _

/-- Where one plan comes to the sources, and the others keep out of their folder, the tree is **laid
out**. -/
theorem laidOut_of_plans {xs inside ys : List Plan} (hxs : ∀ x ∈ xs, Tree.StaysBelow root x.tree)
    (hinside : ∀ x ∈ inside, Tree.StaysBelow (repository.folderIn root) x.tree)
    (hys : ∀ x ∈ ys, x.Beside root "src") :
    LaidOut repository root (Plan.treeAll [] (xs ++
      .folder (sourceFolder root) [.folder (repository.folderIn root) inside] :: ys)) := by
  have htree : ∀ p p' : Path, (Plan.folder p [.folder p' inside]).tree =
      [(p, .folder [(p', .folder (Plan.treeAll [] inside))])] := fun _ _ => rfl
  have hfiles := Plan.staysBelow_treeAll hinside
  refine ⟨⟨_, Plan.get?_treeAll_middle hys (htree _ _), hfiles⟩, fun q hq => ?_⟩
  rcases Plan.mem_keys_treeAll hq with hnil | ⟨x, hx, hkey⟩
  · exact absurd hnil List.not_mem_nil
  rcases List.mem_append.mp hx with hbefore | hx
  · exact Or.inl (hxs x hbefore q hkey)
  rcases List.mem_cons.mp hx with rfl | hafter
  · rw [htree, Tree.keys_singleton] at hkey
    rcases List.mem_cons.mp hkey with rfl | hkey
    · exact Or.inl (below_sourceFolder root)
    rw [Tree.keys_singleton] at hkey
    rcases List.mem_cons.mp hkey with rfl | hkey
    · exact Or.inr (Path.Within.refl _)
    · exact Or.inr (hfiles q hkey).within
  · exact Or.inl ((hys x hafter).below q hkey)

section

variable {renderer : Renderer}

/-- **The sources** come to one folder with the package in it. -/
theorem plan_sources (h : Fields.get? context "repo" = some repository.dump) (root : Path)
    (more : List Node) : (sources more).plan renderer d context none root =
      .folder (sourceFolder root) [.folder (repository.folderIn root)
        (Node.planAll renderer d context (repository.folderIn root) (packageFile :: more))] := by
  have hsrc : Node.path renderer d context none root (.ofString "src") =
      .ok (some (sourceFolder root)) := by
    rw [Name.ofString_of_not_isTemplate (by decide +kernel)]
    rfl
  have hpackage : Node.path renderer d context none (sourceFolder root)
      (.ofString "\x7b\x7brepo.src_path\x7d\x7d") = .ok (some (repository.folderIn root)) := by
    rw [Node.path, resolve_packageFolder h]
    rfl
  rw [sources, folder, folder, Node.withId, Node.plan, hsrc]
  simp only [Node.planAll, Node.plan, hpackage, packageFile]

/-- **A layout** comes to a tree that is laid out below its root. -/
theorem laidOut_of_layout (h : Fields.get? context "repo" = some repository.dump) (k : Kind)
    (root : Path) : LaidOut repository root
      (Plan.treeAll [] (Node.planAll renderer d context root k.layout)) := by
  obtain ⟨before, more, after, hlayout, hbefore, hfiles, hafter, hother⟩ := exists_layout k
  have hplans : Node.planAll renderer d context root k.layout =
      Node.planAll renderer d context root before ++ (sources more).plan renderer d context none root ::
        Node.planAll renderer d context root (after ++ [License.file]) := by
    simp only [hlayout, Node.planAll_eq_map, List.map_append, List.map_cons]
  have hbeside : ∀ x ∈ Node.planAll renderer d context root (after ++ [License.file]),
      x.Beside root "src" := by
    rw [Node.isPlainAll_eq_all, List.all_eq_true] at hafter
    rw [List.all_eq_true] at hother
    rw [Node.planAll_eq_map, List.map_append, List.forall_mem_append, List.forall_mem_map]
    refine ⟨fun n hn => ?_, fun x hx => ?_⟩
    · exact Node.beside_of_isPlain isPlain_src (hafter n hn) (bne_iff_ne.mp (hother n hn))
    · obtain rfl := List.mem_singleton.mp hx
      exact beside_license
  have hbelow : ∀ x ∈ Node.planAll renderer d context (repository.folderIn root)
      (packageFile :: more), Tree.StaysBelow (repository.folderIn root) x.tree :=
    Node.staysBelow_of_isPlainAll hfiles
  rw [hplans, plan_sources h root more]
  exact laidOut_of_plans (Node.staysBelow_of_isPlainAll hbefore) hbelow hbeside

end

/-- The **root** of a built-in recipe is the name of its repository below the base, unless it is overridden. -/
theorem Kind.Built.path_root (hbuilt : k.Built s r) (d : Disk) (context : Context)
    (override : Option Path) (base : Path) :
    Node.path r.renderer d context override base r.root.name =
      .ok (some (base.join (override.getD ⟨s.repository.name⟩))) := by
  rw [hbuilt.root]
  cases override <;> rfl

/-- The **context** of a built-in recipe has what its settings declare. -/
theorem Kind.Built.get?_context (hbuilt : k.Built s r) {key : String} {v : Json}
    (h : r.combined [] = .ok context) (hmember : s.dump.member? key = some v)
    (hkey : Recipe.structural.contains key = false) : Fields.get? context key = some v := by
  rw [Recipe.get?_context (Recipe.combined_nil ▸ h) hkey, hbuilt.declared, hmember]

/-- **A dry run** of a built-in recipe renders one folder, laid out below it. -/
theorem exists_laidOut_of_dryrun {base override : Option Path} {t : Tree} (hbuilt : k.Built s r)
    (h : r.dryrun d base override [] = .ok t) :
    ∃ children, t = [((Recipe.baseOf d base).join (override.getD ⟨s.repository.name⟩),
      .folder children)] ∧
      LaidOut s.repository ((Recipe.baseOf d base).join (override.getD ⟨s.repository.name⟩))
        children := by
  rw [Recipe.dryrun] at h
  split at h
  · simp at h
  next context hcontext =>
  have hrepo := hbuilt.get?_context hcontext s.member?_dump (by decide)
  rw [Node.preview_eq_plan, Plan.answer_eq_ok, Folder.toNode, Node.plan, hbuilt.path_root,
    hbuilt.contents] at h
  exact ⟨_, h.2.symm, laidOut_of_layout hrepo k _⟩

end Builtin

end Scaffold
