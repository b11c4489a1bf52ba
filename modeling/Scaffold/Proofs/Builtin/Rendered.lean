import Scaffold.Proofs.Builtin.Package
import Scaffold.Proofs.Template.Sound

/-!
# Proofs/Builtin/Rendered — the built-in templates cannot fail

Every built-in template is a page, or extends one (`isSound_pages`, `extendsSound_pyproject`,
`extendsSound_readme`), and so is the text of every license (`isSound_license`).  They take attributes of
the repository and of the branches and of nothing else, so in every context that has both, all sources
of the layouts come to a content (`exists_render_source`, `exists_render_license`).  What all layouts share
does not read what a recipe says of itself (`ignores_sharedPages`, `ignores_license`).
-/

namespace Scaffold.Builtin

open Template

/-! ## The texts -/

/-- The **records** that the built-in templates take attributes of. -/
def records : List String := ["repo", "git"]

/-- The built-in templates that **extend no other**, and the texts of files without one. -/
def pages : List String := [gitignore, noxfile, preCommitConfig, pyproject, readme, packageInit, app,
  auth, server, apiInit, apiBase, dockerfile, dockerignore, docsIndex, docsUsage, docsDeveloping,
  docsLicense, mkdocs, recipeModule, sampleIngredient, placeholderTest, ""]

/-- The texts of the files that **all layouts share**, but for the license. -/
def sharedPages : List String := [gitignore, noxfile, preCommitConfig, packageInit, docsIndex, docsUsage,
  docsDeveloping, docsLicense, mkdocs, placeholderTest, ""]

/-- What all layouts share is flat, and **does not read** what a recipe says of itself. -/
theorem ignores_sharedPages : ∀ text ∈ sharedPages, ignores records "recipe" text = true := by
  simp only [sharedPages, gitignore, noxfile, preCommitConfig, packageInit, docsIndex, docsUsage,
    docsDeveloping, docsLicense, mkdocs, Text.join, List.map_cons, List.map_nil,
    List.forall_mem_cons, ignores, parse, scan_ofList]
  simp (disch := rfl) only [toList_of_eq_ofList]
  decide +kernel

/-- The built-in templates that extend no other are **pages**. -/
theorem isSound_pages : ∀ text ∈ pages, isSound records text = true := by
  have hother : ∀ text ∈ [pyproject, readme, app, auth, server, apiInit, apiBase, dockerfile,
      dockerignore, recipeModule, sampleIngredient], isSound records text = true := by
    simp only [pyproject, readme, app, auth, server, apiInit, apiBase, dockerfile, dockerignore,
      recipeModule, sampleIngredient, Text.join, List.map_cons, List.map_nil, List.forall_mem_cons,
      isSound, parse, scan_ofList]
    simp (disch := rfl) only [toList_of_eq_ofList]
    decide +kernel
  have hpages : pages ⊆ sharedPages ++ [pyproject, readme, app, auth, server, apiInit, apiBase,
      dockerfile, dockerignore, recipeModule, sampleIngredient] := by
    simp [pages, sharedPages]
  intro text htext
  rcases List.mem_append.mp (hpages htext) with hshared | hnot
  · exact isSound_of_ignores (ignores_sharedPages text hshared)
  · exact hother text hnot

/-- The description of a package, as it is **extended**. -/
def pyprojectReference : String := "kiln.recipes.python.ingredients:pyproject.toml.template"

/-- The introduction to a package, as it is **extended**. -/
def readmeReference : String := "kiln.recipes.python.ingredients:readme.md.template"

/-- The other descriptions **extend** that of a package. -/
theorem extendsSound_pyproject : ∀ text ∈ [apiPyproject, recipePyproject],
    extendsSound records pyprojectReference text = true := by
  simp only [apiPyproject, recipePyproject, Text.join, List.map_cons, List.map_nil,
    List.forall_mem_cons, extendsSound, parse, scan_ofList]
  simp (disch := rfl) only [toList_of_eq_ofList]
  decide +kernel

/-- The other introductions **extend** that to a package. -/
theorem extendsSound_readme : ∀ text ∈ [apiReadme, recipeReadme],
    extendsSound records readmeReference text = true := by
  simp only [apiReadme, recipeReadme, Text.join, List.map_cons, List.map_nil,
    List.forall_mem_cons, extendsSound, parse, scan_ofList]
  simp (disch := rfl) only [toList_of_eq_ofList]
  decide +kernel

/-- The texts of licenses are **flat**, take no attributes, and do not read what a recipe says of itself. -/
theorem ignores_licenseTexts : ∀ text ∈ [License.agpl3Text, License.apache2Text, License.bsd2Text,
    License.bsd3Text, License.bsl1Text, License.cc0Text, License.epl2Text, License.gpl2Text,
    License.gpl3Text, License.lgpl21Text, License.mitText, License.mpl2Text, License.unlicenseText],
    ignores [] "recipe" text = true := by
  simp only [License.agpl3Text, License.apache2Text, License.bsd2Text, License.bsd3Text,
    License.bsl1Text, License.cc0Text, License.epl2Text, License.gpl2Text, License.gpl3Text,
    License.lgpl21Text, License.mitText, License.mpl2Text, License.unlicenseText, Text.join,
    List.map_cons, List.map_nil, List.forall_mem_cons, ignores, parse, scan_ofList]
  simp (disch := rfl) only [toList_of_eq_ofList]
  decide +kernel

/-- **The text of every license** is flat, takes no attributes, and does not read what a recipe says of
itself. -/
theorem ignores_license (l : License) : ignores [] "recipe" l.text = true :=
  ignores_licenseTexts _ (by cases l <;> simp [License.text])

/-- **The text of every license** is a page that takes no attributes. -/
theorem isSound_license (l : License) : isSound [] l.text = true :=
  isSound_of_ignores (ignores_license l)

/-! ## Rendering them -/

variable {d : Disk} {context : Context}

/-- The built-in renderer **finds** the description of a package. -/
theorem findPage_pyproject (d : Disk) :
    Renderer.builtin.findPage d pyprojectReference = parse pyproject := rfl

/-- The built-in renderer **finds** the introduction to a package. -/
theorem findPage_readme (d : Disk) :
    Renderer.builtin.findPage d readmeReference = parse readme := rfl

/-- A page **renders** with the built-in renderer. -/
theorem exists_render_of_page (d : Disk) {names : List String} {text : String}
    (hsound : isSound names text = true) (h : ∀ x ∈ names, Fields.has context x = true) :
    ∃ s, Renderer.builtin.render d text context = .ok s := by
  obtain ⟨s, hs⟩ := exists_render_of_isSound hsound h
  exact ⟨s, Renderer.render_of_ok hs⟩

/-- **Every built-in template** is a page or extends one of two. -/
theorem mem_of_mem_modules : ∀ m ∈ modules, ∀ t ∈ m.2,
    t.2 ∈ pages ∨ t.2 ∈ [apiPyproject, recipePyproject] ∨ t.2 ∈ [apiReadme, recipeReadme] := by
  simp only [modules, List.forall_mem_cons]
  simp [pages]

/-- **Every built-in template** renders where the context has the records. -/
theorem exists_render_of_mem_modules (h : ∀ x ∈ records, Fields.has context x = true) :
    ∀ m ∈ modules, ∀ t ∈ m.2, ∃ s, Renderer.builtin.render d t.2 context = .ok s := by
  intro m hm t ht
  rcases mem_of_mem_modules m hm t ht with hpage | hpyproject | hreadme
  · exact exists_render_of_page d (isSound_pages _ hpage) h
  · exact Renderer.exists_render_of_extendsSound (extendsSound_pyproject _ hpyproject)
      (isSound_pages pyproject (by simp [pages])) (by decide) (findPage_pyproject d) h
  · exact Renderer.exists_render_of_extendsSound (extendsSound_readme _ hreadme)
      (isSound_pages readme (by simp [pages])) (by decide) (findPage_readme d) h

/-! ## The sources of the layouts -/

/-- A source that holds a **built-in template**, or a text without one. -/
def isBuiltin : Source → Bool
  | .text s => [placeholderTest, ""].contains s
  | .resource ref => ((ResourceSource.lookup? modules ref.module).bind
      (ResourceSource.lookup? · ref.filename)).isSome
  | _ => false

/-- What is under a key is **among the entries**. -/
theorem mem_of_lookup? {α : Type} {entries : List (String × α)} {key : String} {a : α}
    (h : ResourceSource.lookup? entries key = some a) : ∃ e ∈ entries, e.2 = a := by
  obtain ⟨e, hfind, rfl⟩ := Option.map_eq_some_iff.mp h
  exact ⟨e, List.mem_of_find?_eq_some hfind, rfl⟩

/-- A source whose text renders **comes to a content**. -/
theorem render_of_text {source : Source} {text s : String}
    (hsource : source.resolve .builtin d context = .ok (some (.text text)))
    (h : Renderer.builtin.render d text context = .ok s) :
    ∃ content, source.render .builtin d context = .ok (some content) := by
  rw [Source.render, hsource]
  simp only [h]
  exact ⟨_, rfl⟩

/-- **Every built-in source** comes to a content where the context has the records. -/
theorem exists_render_source (h : ∀ x ∈ records, Fields.has context x = true) : ∀ {source : Source},
    isBuiltin source = true → ∃ content, source.render .builtin d context = .ok (some content)
  | .text s, hs => by
    have hmem : s ∈ pages := by
      have hs : s = placeholderTest ∨ s = "" := by simpa [isBuiltin] using hs
      rcases hs with rfl | rfl <;> simp [pages]
    obtain ⟨out, hout⟩ := exists_render_of_page d (isSound_pages s hmem) h
    exact render_of_text rfl hout
  | .resource ref, hs => by
    obtain ⟨text, htext⟩ := Option.isSome_iff_exists.mp hs
    obtain ⟨files, hfiles, hfile⟩ := Option.bind_eq_some_iff.mp htext
    obtain ⟨m, hm, rfl⟩ := mem_of_lookup? hfiles
    obtain ⟨t, ht, rfl⟩ := mem_of_lookup? hfile
    obtain ⟨out, hout⟩ := exists_render_of_mem_modules (d := d) h m hm t ht
    refine render_of_text ?_ hout
    have hbuiltin : ResourceSource.builtin.load d ref = .ok t.2 := by
      rw [ResourceSource.builtin, ResourceSource.load, htext]
    have hload : Renderer.builtin.loadResource d ref = .ok t.2 := by
      rw [Renderer.loadResource, Renderer.builtin, ResourceSource.loadFirst, hbuiltin]
    rw [Source.resolve, hload]
    rfl

/-- **The license** comes to a content where the context has a known one. -/
theorem exists_render_license {l : License} (h : License.ofContext? context = some l) :
    ∃ content, (Source.computed fun ctx => (License.ofContext? ctx).map fun l =>
      .text l.text).render .builtin d context = .ok (some content) := by
  obtain ⟨out, hout⟩ : ∃ s, Renderer.builtin.render d l.text context = .ok s :=
    exists_render_of_page d (isSound_license l) fun _ hx => absurd hx List.not_mem_nil
  refine render_of_text ?_ hout
  rw [Source.resolve, h]
  rfl

end Scaffold.Builtin
