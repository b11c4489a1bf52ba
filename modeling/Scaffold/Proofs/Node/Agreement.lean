import Scaffold.Proofs.Node.Script

/-!
# Proofs/Node/Agreement — a preview shows what is written

A node that is written answers the tree its preview shows, and fails where its preview fails, unless
the disk gets in the way first (`materialize_agrees_with_preview`).  That takes rendering to be
**independent** of what is written: no name and no content may change with what stands at the
locations the node creates or writes.  Only contents that are read from the disk and resources that
are found there can do so at all (`plan_of_reads`).
-/

namespace Scaffold

/-! ## Failing -/

namespace Plan

mutual

/-- The steps of a plan **succeed** only if nothing in it fails, and stop at its first failure or at
a fault of the disk. -/
theorem runAll_steps : ∀ (d : Disk) (x : Plan),
    ((Step.runAll d x.steps).2 = .ok () ∧ x.fault? = none) ∨
      ∃ e, (Step.runAll d x.steps).2 = .error e ∧
        (x.fault? = some e ∨ ∃ fault, e = .disk fault)
  | d, .skip => Or.inl ⟨rfl, rfl⟩
  | d, .fault e => Or.inr ⟨e, rfl, Or.inl rfl⟩
  | d, .file p content => by
    simp only [steps, Step.runAll, Step.run]
    cases d.writeFile p content.toBytes with
    | error fault => exact Or.inr ⟨_, rfl, Or.inr ⟨fault, rfl⟩⟩
    | ok d' => exact Or.inl ⟨rfl, rfl⟩
  | d, .folder p inside => by
    simp only [steps, Step.runAll, Step.run]
    rcases d.makeDirs p with ⟨d', fault | _⟩
    · exact Or.inr ⟨_, rfl, Or.inr ⟨fault, rfl⟩⟩
    · exact runAll_stepsAll d' inside

/-- The steps of plans succeed only if nothing in them fails. -/
theorem runAll_stepsAll : ∀ (d : Disk) (xs : List Plan),
    ((Step.runAll d (stepsAll xs)).2 = .ok () ∧ faultAll? xs = none) ∨
      ∃ e, (Step.runAll d (stepsAll xs)).2 = .error e ∧
        (faultAll? xs = some e ∨ ∃ fault, e = .disk fault)
  | d, [] => Or.inl ⟨rfl, rfl⟩
  | d, x :: xs => by
    rw [stepsAll, faultAll?]
    rcases hrun : Step.runAll d x.steps with ⟨d', e | _⟩
    · rw [Step.runAll_append_error hrun]
      rcases runAll_steps d x with ⟨hok, _⟩ | ⟨e', he, hcause⟩
      · rw [hrun] at hok
        simp at hok
      · rw [hrun, Except.error.injEq] at he
        refine Or.inr ⟨e, rfl, ?_⟩
        rcases hcause with hfault | hdisk
        · exact Or.inl (by rw [hfault, he])
        · exact Or.inr (he ▸ hdisk)
    · rw [Step.runAll_append_ok hrun]
      rcases runAll_steps d x with ⟨_, hnone⟩ | ⟨e', he, _⟩
      · rw [hnone]
        exact runAll_stepsAll d' xs
      · rw [hrun] at he
        simp at he

end

/-- Where the steps of a plan succeed **nothing fails** in it. -/
theorem fault?_of_runAll {x : Plan} {d e : Disk} (h : Step.runAll d x.steps = (e, .ok ())) :
    x.fault? = none := by
  rcases runAll_steps d x with ⟨_, hnone⟩ | ⟨e', he, _⟩
  · exact hnone
  · rw [h] at he
    simp at he

end Plan

/-! ## Where rendering reads the disk -/

/-- All resources of the renderer are held in memory. -/
def Renderer.IsEmbedded (r : Renderer) : Prop :=
  ∀ s ∈ r.sources, ∃ modules, s = ResourceSource.embedded modules

namespace Renderer

variable {r : Renderer} {d d' : Disk}

/-- Resources held in memory are the same on every disk. -/
theorem loadFirst_of_embedded (d d' : Disk) (resource : Resource) : ∀ {ss : List ResourceSource},
    (∀ s ∈ ss, ∃ modules, s = ResourceSource.embedded modules) →
      ResourceSource.loadFirst d' resource ss = ResourceSource.loadFirst d resource ss
  | [], _ => rfl
  | s :: ss, h => by
    obtain ⟨modules, rfl⟩ := h s List.mem_cons_self
    rw [ResourceSource.loadFirst, ResourceSource.loadFirst,
      loadFirst_of_embedded d d' resource fun x hx => h x (List.mem_cons_of_mem _ hx)]
    rfl

/-- Templates are rendered alike on disks that hold the same resources. -/
theorem render_congr (h : ∀ resource, r.loadResource d' resource = r.loadResource d resource)
    (template : String) (context : Context) :
    r.render d' template context = r.render d template context := by
  have hpage : ∀ name, r.findPage d' name = r.findPage d name := fun name => by
    simp only [findPage, h]
  have hfrom : ∀ (fuel : Nat) (pages : Template.Pages),
      r.renderFrom d' template context fuel pages =
        r.renderFrom d template context fuel pages := by
    intro fuel
    induction fuel with
    | zero => exact fun pages => rfl
    | succ fuel ih =>
      intro pages
      rw [renderFrom, renderFrom]
      split
      · rw [hpage, ih]
      · rfl
  rw [render, render, hfrom]

end Renderer

namespace Node

variable {r : Renderer} {context : Context} {override : Option Path} {base : Path} {d d' : Disk}

mutual

/-- The files on the disk that contents are **read from**. -/
def readPaths : Node → List Path
  | .file _ _ (.path p) => [p]
  | .file _ _ _ => []
  | .folder _ _ contents => readPathsAll contents

/-- The files that contents of several nodes are read from. -/
def readPathsAll : List Node → List Path
  | [] => []
  | n :: ns => readPaths n ++ readPathsAll ns

end

/-- Names are resolved alike on disks that hold the same resources. -/
theorem resolve_congr (h : ∀ resource, r.loadResource d' resource = r.loadResource d resource)
    (context : Context) (name : Name) : name.resolve r d' context = name.resolve r d context := by
  cases name with
  | template t => simp only [Name.resolve, TemplateText.render, Renderer.render_congr h]
  | literal s => rfl
  | computed f => rfl

/-- Contents are rendered alike on disks that hold the same resources and the same file to read
from. -/
theorem render_congr (h : ∀ resource, r.loadResource d' resource = r.loadResource d resource)
    {source : Source} (hread : ∀ p, source = .path p → d'.readBytes p = d.readBytes p)
    (context : Context) : source.render r d' context = source.render r d context := by
  have hresolve : source.resolve r d' context = source.resolve r d context := by
    cases source with
    | path p => simp only [Source.resolve, hread p rfl]
    | resource resource => simp only [Source.resolve, h]
    | text s => rfl
    | bytes b => rfl
    | computed f => rfl
  rw [Source.render, Source.render, hresolve]
  split
  · rw [Renderer.render_congr h]
  · rfl

mutual

/-- A file that a source of a node is, is **read**. -/
theorem mem_readPaths {p : Path} : ∀ {n : Node}, .path p ∈ n.sources → p ∈ n.readPaths
  | .file _ _ source, h => by
    obtain rfl := List.mem_singleton.mp h
    exact List.mem_cons_self
  | .folder _ _ contents, h => @mem_readPathsAll p contents h

/-- A file that a source of nodes is, is read. -/
theorem mem_readPathsAll {p : Path} : ∀ {ns : List Node}, .path p ∈ sourcesAll ns → p ∈ readPathsAll ns
  | n :: ns, h => by
    rw [sourcesAll, List.mem_append] at h
    rw [readPathsAll, List.mem_append]
    exact h.imp mem_readPaths mem_readPathsAll

end

/-- **A node comes to the same** on disks that hold the same resources and the same files that its
contents are read from. -/
theorem plan_of_reads (h : ∀ resource, r.loadResource d' resource = r.loadResource d resource)
    {n : Node} (hread : ∀ p ∈ n.readPaths, d'.readBytes p = d.readBytes p) :
    plan r d' context override base n = plan r d context override base n := by
  refine plan_congr (fun name _ => resolve_congr h context name) fun s hs => ?_
  refine render_congr h ?_ context
  rintro p rfl
  exact hread p (mem_readPaths hs)

/-- Over resources in memory, a node whose contents are read from no file does not **read the
disk**. -/
theorem diskless_of_embedded {n : Node} (hr : r.IsEmbedded) (hread : n.readPaths = []) :
    Diskless r n := fun d d' _ _ _ =>
  plan_of_reads (fun resource => Renderer.loadFirst_of_embedded d d' resource hr)
    fun _ hp => absurd (hread ▸ hp) List.not_mem_nil

/-! ## Independence -/

/-- The disk differs from the one at hand only at locations that writing the node **creates or
writes**: what stands there changes at some point. -/
structure Near (r : Renderer) (context : Context) (override : Option Path) (base : Path) (d : Disk)
    (n : Node) (d' : Disk) : Prop where
  workDir : d'.workDir = d.workDir
  look : ∀ loc, d'.look loc ≠ d.look loc →
    ∃ e, Passes d (script r context override base d n) e ∧ e.look loc ≠ d.look loc

/-- Rendering is **independent** of what writing the node creates or writes. -/
def Independent (r : Renderer) (context : Context) (override : Option Path) (base : Path)
    (d : Disk) (n : Node) : Prop :=
  ∀ d', Near r context override base d n d' →
    plan r d' context override base n = plan r d context override base n

/-- Every disk that is passed is near. -/
theorem near_of_passes {n : Node} {e : Disk}
    (h : Passes d (script r context override base d n) e) : Near r context override base d n e where
  workDir := by
    obtain ⟨done, _, rfl⟩ := h
    exact (Step.runAll_grows d done).workDir
  look _ hne := ⟨e, h, hne⟩

/-- Where rendering is independent it stays the same. -/
theorem Independent.steady {n : Node} (h : Independent r context override base d n) :
    Steady r context override base d n := fun e he => h e (near_of_passes he)

/-- Over resources in memory rendering is independent of what is written as soon as the files that
contents are **read from** are. -/
theorem independent_of_embedded {n : Node} (hr : r.IsEmbedded)
    (hread : ∀ p ∈ n.readPaths, ∀ d', Near r context override base d n d' →
      d'.readBytes p = d.readBytes p) : Independent r context override base d n := fun d' hnear =>
  plan_of_reads (fun resource => Renderer.loadFirst_of_embedded d d' resource hr)
    fun p hp => hread p hp d' hnear

/-- **A preview shows what is written.**  Where rendering is independent of what is written, the
tree of a node that was written is the one its preview shows; a node with a preview is written, and
a preview that fails tells the failure of writing, unless the disk gets in the way.  Over resources
in memory rendering is independent as soon as the files that contents are read from are. -/
theorem materialize_agrees_with_preview (r : Renderer) (context : Context)
    (override : Option Path) (base : Path) (d : Disk) (n : Node) :
    (Independent r context override base d n →
      (∀ t, (materialize r context override base d n).2 = .ok t →
        preview r d context override base n = .ok t) ∧
      (∀ t, preview r d context override base n = .ok t →
        (materialize r context override base d n).2 = .ok t ∨
          ∃ fault, (materialize r context override base d n).2 = .error (.disk fault)) ∧
      (∀ e, preview r d context override base n = .error e →
        (materialize r context override base d n).2 = .error e ∨
          ∃ fault, (materialize r context override base d n).2 = .error (.disk fault))) ∧
    (r.IsEmbedded →
      (∀ p ∈ n.readPaths, ∀ d', Near r context override base d n d' →
        d'.readBytes p = d.readBytes p) →
      Independent r context override base d n) := by
  constructor
  · intro h
    rw [materialize_eq_steps n h.steady, preview_eq_plan]
    simp only [Plan.answer_eq_ok, Plan.answer_eq_error]
    rcases Plan.runAll_steps d (plan r d context override base n) with
      ⟨hok, hnone⟩ | ⟨e, he, hcause⟩
    · rw [hok, hnone]
      refine ⟨fun t ht => ⟨rfl, Except.ok.inj ht⟩, ?_, fun e he => absurd he (by simp)⟩
      rintro t ⟨-, rfl⟩
      exact Or.inl rfl
    · rw [he]
      refine ⟨fun t ht => absurd ht (by simp [Except.map]), ?_, ?_⟩
      · rintro t ⟨hnone, -⟩
        rcases hcause with hfault | ⟨fault, rfl⟩
        · rw [hnone] at hfault
          simp at hfault
        · exact Or.inr ⟨fault, rfl⟩
      · intro e' he'
        rcases hcause with hfault | ⟨fault, rfl⟩
        · obtain rfl : e' = e := Option.some.inj (he'.symm.trans hfault)
          exact Or.inl rfl
        · exact Or.inr ⟨fault, rfl⟩
  · exact independent_of_embedded

/-- A renderer without resources. -/
def bareRenderer : Renderer := ⟨[.embedded []]⟩

theorem isEmbedded_bareRenderer : bareRenderer.IsEmbedded := fun s hs => by
  obtain rfl : s = .embedded [] := by simpa [bareRenderer] using hs
  exact ⟨[], rfl⟩

/-- A folder with **one file** in it. -/
def readme : Node :=
  .folder none (.literal "docs") [.file none (.literal "README") (.text "about docs")]

/-- The file is written as its preview shows it. -/
theorem materialize_agrees_with_preview_readme : ∃ t,
    (materialize bareRenderer [] none ⟨"out"⟩ (Disk.bare ["w"]) readme).2 = .ok t ∧
      preview bareRenderer (Disk.bare ["w"]) [] none ⟨"out"⟩ readme = .ok t ∧
      Tree.filePaths t = [⟨"out/docs/README"⟩] := by
  obtain ⟨hagree, hindependent⟩ := materialize_agrees_with_preview bareRenderer [] none ⟨"out"⟩
    (Disk.bare ["w"]) readme
  have hread : readme.readPaths = [] := rfl
  obtain ⟨hok, -, -⟩ := hagree (hindependent isEmbedded_bareRenderer
    (by rw [hread]; exact fun p hp => absurd hp (by simp)))
  have hpaths : (materialize bareRenderer [] none ⟨"out"⟩ (Disk.bare ["w"]) readme).2.toOption.map
      Tree.filePaths = some [⟨"out/docs/README"⟩] := by decide +kernel
  rcases hm : (materialize bareRenderer [] none ⟨"out"⟩ (Disk.bare ["w"]) readme).2 with e | t
  · rw [hm] at hpaths
    simp [Except.toOption] at hpaths
  · rw [hm] at hpaths
    exact ⟨t, rfl, hok t hm, Option.some.inj hpaths⟩

end Node

end Scaffold
