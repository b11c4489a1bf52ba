import Scaffold.Proofs.Node.Placed
import Scaffold.Proofs.Recipe.Audit
import Scaffold.Proofs.Recipe.Named

/-!
# Proofs/Recipe/Dryrun — a creation writes what a dry run shows

A creation writes its layout at the path that the hooks before it have left, cut into a parent and
a name.  Joined again they lead to the same place (`sameAs_of_splitRoot`), so the tree that is
written is the one that a preview at that path shows (`preview_of_writeAt`).  Without such hooks it
is the one of a dry run (`create_writes_dryrun`).
-/

namespace Scaffold.Recipe

variable {r : Recipe} {h : Host} {d e : Disk} {base override : Option Path} {extra ctx : Context}
  {p : Path}

/-! ## The root -/

/-- A root that is **cut into a parent and a name** is the place that these lead to. -/
theorem sameAs_of_splitRoot {parent name : Path} (hsplit : splitRoot p = .ok (parent, name)) :
    (parent.join name).sameAs p = true ∧ (parent.join name).text.isEmpty = false ∧
      p.text.isEmpty = false := by
  rw [splitRoot] at hsplit
  split at hsplit
  · next q s hparent hname =>
    obtain ⟨rfl, rfl⟩ := Prod.mk.inj (Except.ok.inj hsplit)
    obtain ⟨c, hc⟩ := Path.components_of_parent? hparent
    have hlast : c = .name s := by
      rw [Path.fileName?, hc, List.getLast?_concat] at hname
      split at hname
      · next s' hs' => rw [← Option.some.inj hname, ← Option.some.inj hs']
      · simp at hname
    have hjoin := Path.components_joinName (Path.isPlain_of_fileName? hname) q
    have hnonempty : ∀ {x : Path}, x.components = q.components ++ [.name s] →
        x.text.isEmpty = false := fun {x} hx => by
      by_contra hempty
      rw [Path.components_of_isEmpty (Bool.not_eq_false _ ▸ hempty)] at hx
      simp at hx
    rw [hlast] at hc
    exact ⟨Path.sameAs_iff.mpr (hjoin.trans hc.symm), hnonempty hjoin, hnonempty hc⟩
  · simp at hsplit

/-- Where the root of a folder is known, a preview is one **at that path**. -/
theorem preview_of_path {f : Folder} {q : Path}
    (hp : Node.path r.renderer d ctx override q f.name = .ok (some p)) :
    f.toNode.preview r.renderer d ctx override q =
      f.toNode.preview r.renderer d ctx (some p) ⟨""⟩ := by
  rw [Folder.toNode, Node.preview, Node.preview, hp, Node.path, Path.join_of_isEmpty rfl]

/-- A root that is given a path comes to a **folder at that path**. -/
theorem plan_toNode (renderer : Renderer) (f : Folder) (d : Disk) (ctx : Context) (q x : Path) :
    f.toNode.plan renderer d ctx (some x) q =
      .folder (q.join x) (Node.planAll renderer d ctx (q.join x) f.contents) := by
  rw [Folder.toNode, Node.plan, Node.path]

/-- **What is written at a path** is what a preview at that path shows, on any disk, if rendering
does not read the disk. -/
theorem preview_of_writeAt {tree : Tree} (hread : Node.Diskless r.renderer r.root.toNode)
    (hwrite : r.writeAt d p ctx = (e, .ok tree)) :
    ∃ t, (∀ d', r.root.toNode.preview r.renderer d' ctx (some p) ⟨""⟩ = .ok t) ∧
      Tree.Same tree t := by
  rw [writeAt] at hwrite
  split at hwrite
  · simp at hwrite
  next parent name hsplit =>
  have hok : (r.root.toNode.materialize r.renderer ctx (some name) parent d).2 = .ok tree := by
    rw [hwrite]
  have hnone := Plan.fault?_of_runAll (Node.runAll_of_materialize hread.steady hok)
  have htree := Node.tree_of_materialize hread.steady hok
  obtain ⟨hsame, hne, hne'⟩ := sameAs_of_splitRoot hsplit
  obtain ⟨hfault, htrees⟩ :=
    @Node.treeAll_placed r.renderer d ctx r.root.contents _ _ hsame hne hne'
  have hroot := plan_toNode r.renderer r.root d ctx ⟨""⟩ p
  rw [Path.join_of_isEmpty rfl] at hroot
  rw [plan_toNode, Plan.fault?, hfault] at hnone
  refine ⟨(r.root.toNode.plan r.renderer d ctx (some p) ⟨""⟩).tree, fun d' => ?_, ?_⟩
  · rw [Node.preview_eq_plan, hread d d', hroot, Plan.fault?, hnone]
    rfl
  · rw [← htree, plan_toNode, hroot]
    exact ⟨hsame, htrees trivial, trivial⟩

/-! ## Creations -/

/-- A creation **starts** at the path of its root, with the combined context. -/
theorem start_eq_ok : r.start d base override extra = .ok (p, ctx) ↔
    r.combined extra = .ok ctx ∧
      Node.path r.renderer d ctx override (baseOf d base) r.root.name = .ok (some p) := by
  rw [start]
  rcases r.combined extra with x | ctx'
  · simp
  · simp only [pathIn, Except.ok.injEq]
    constructor
    · intro h
      rcases hp : Node.path r.renderer d ctx' override (baseOf d base) r.root.name with x | _ | q
      · simp [hp, Except.map] at h
      · simp [hp, Except.map] at h
      · simp only [hp, Except.map, Except.ok.injEq, Prod.mk.injEq] at h
        obtain ⟨rfl, rfl⟩ := h
        exact ⟨rfl, hp⟩
    · rintro ⟨rfl, hp⟩
      rw [hp]
      rfl

/-- A creation that **succeeds** has written its tree where the hooks before it have ended. -/
theorem writeAt_of_create {creation : Creation}
    (hok : (r.create h d base override extra).result = .ok creation) :
    ∃ p₀ ctx₀ p ctx e, r.start d base override extra = .ok (p₀, ctx₀) ∧
      (Hook.runAll h r.preHooks d p₀ ctx₀).result = .ok (p, ctx) ∧
      r.writeAt (Hook.runAll h r.preHooks d p₀ ctx₀).disk p ctx = (e, .ok creation.tree) := by
  rw [create] at hok
  rcases hstart : r.start d base override extra with x | ⟨p₀, ctx₀⟩
  · rw [hstart] at hok
    simp at hok
  rcases hpre : (Hook.runAll h r.preHooks d p₀ ctx₀).result with x | ⟨p, ctx⟩
  · simp [hstart, hpre] at hok
  rcases hwrite : r.writeAt (Hook.runAll h r.preHooks d p₀ ctx₀).disk p ctx with ⟨e, x | tree⟩
  · simp [hstart, hpre, hwrite] at hok
  refine ⟨p₀, ctx₀, p, ctx, e, rfl, hpre, ?_⟩
  simp only [hstart, hpre, hwrite, finish] at hok ⊢
  split at hok
  · simp at hok
  · split at hok
    · simp at hok
    · rw [← Except.ok.inj hok]

/-- **A creation writes what a dry run shows.**  It starts at the base joined with the override, or
else with the name of the recipe, and where rendering does not read the disk it answers the tree
that a preview shows at the path that the hooks before it have ended at, with the context they have
left.  Without such hooks it is the tree of the dry run. -/
theorem create_writes_dryrun {creation : Creation}
    (hread : Node.Diskless r.renderer r.root.toNode)
    (hok : (r.create h d base override extra).result = .ok creation) :
    ∃ p₀ ctx₀ p ctx t,
      r.combined extra = .ok ctx₀ ∧
      Node.path r.renderer d ctx₀ override (baseOf d base) r.root.name = .ok (some p₀) ∧
      (∀ q, override = some q → p₀ = (baseOf d base).join q) ∧
      (∀ name, override = none → r.IsNamed name → p₀ = (baseOf d base).joinName name) ∧
      (Hook.runAll h r.preHooks d p₀ ctx₀).result = .ok (p, ctx) ∧
      (∀ d', r.root.toNode.preview r.renderer d' ctx (some p) ⟨""⟩ = .ok t) ∧
      Tree.Same creation.tree t ∧
      (r.preHooks = [] → r.dryrun d base override extra = .ok t) := by
  obtain ⟨p₀, ctx₀, p, ctx, e, hstart, hpre, hwrite⟩ := writeAt_of_create hok
  obtain ⟨hctx, hp₀⟩ := start_eq_ok.mp hstart
  obtain ⟨t, hpreview, hsame⟩ := preview_of_writeAt hread hwrite
  refine ⟨p₀, ctx₀, p, ctx, t, hctx, hp₀, ?_, ?_, hpre, hpreview, hsame, ?_⟩
  · rintro q rfl
    rw [Node.path] at hp₀
    exact (Option.some.inj (Except.ok.inj hp₀)).symm
  · rintro name rfl hname
    rw [Node.path, hname.root, Name.resolve] at hp₀
    exact (Option.some.inj (Except.ok.inj hp₀)).symm
  · intro hnone
    rw [hnone, Hook.runAll] at hpre
    obtain ⟨rfl, rfl⟩ := Prod.mk.inj (Except.ok.inj hpre)
    rw [dryrun, hctx, ← hpreview d]
    exact preview_of_path hp₀

/-- A hook that goes on **elsewhere**. -/
def relocating : Hook where
  call _ d _ ctx := ⟨d, .empty, .ok (some (⟨"/w/x/."⟩, ctx))⟩

/-- A recipe for one file that goes elsewhere. -/
def relocated : Recipe := Call.oneFile [relocating] []

/-- Where a hook ends at a path with a dot behind it, the file is written at the path without. -/
theorem create_writes_dryrun_relocated : ∃ creation ctx t,
    (relocated.create ⟨[], none, "now", 2024⟩ (Disk.bare ["w"]) (some ⟨"/w"⟩) none []).result =
      .ok creation ∧
    relocated.root.toNode.preview relocated.renderer (Disk.bare ["w"]) ctx (some ⟨"/w/x/."⟩) ⟨""⟩ =
      .ok t ∧
    Tree.Same creation.tree t ∧ Tree.filePaths creation.tree = [⟨"/w/x/f"⟩] ∧
    Tree.filePaths t = [⟨"/w/x/./f"⟩] := by
  have hpaths : (relocated.create ⟨[], none, "now", 2024⟩ (Disk.bare ["w"]) (some ⟨"/w"⟩) none
      []).result.toOption.map (fun creation => Tree.filePaths creation.tree) =
        some [⟨"/w/x/f"⟩] := by decide +kernel
  rcases hok : (relocated.create ⟨[], none, "now", 2024⟩ (Disk.bare ["w"]) (some ⟨"/w"⟩) none
      []).result with x | creation
  · rw [hok] at hpaths
    simp [Except.toOption] at hpaths
  rw [hok] at hpaths
  have hread : Node.Diskless relocated.renderer relocated.root.toNode :=
    Node.diskless_of_embedded Node.isEmbedded_bareRenderer rfl
  obtain ⟨p₀, ctx₀, p, ctx, t, -, -, -, -, hpre, hpreview, hsame, -⟩ :=
    create_writes_dryrun hread hok
  obtain ⟨rfl, rfl⟩ : (⟨"/w/x/."⟩ : Path) = p ∧ ctx₀ = ctx := by
    simpa [relocated, Call.oneFile, Hook.runAll, relocating] using hpre
  have hshown := hpreview (Disk.bare ["w"])
  have hdotted : (relocated.root.toNode.preview relocated.renderer (Disk.bare ["w"]) ctx₀
      (some ⟨"/w/x/."⟩) ⟨""⟩).map Tree.filePaths = .ok [⟨"/w/x/./f"⟩] := rfl
  rw [hshown] at hdotted
  exact ⟨creation, ctx₀, t, rfl, hshown, hsame, Option.some.inj hpaths, Except.ok.inj hdotted⟩

end Scaffold.Recipe
