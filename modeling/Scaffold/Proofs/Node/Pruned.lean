import Scaffold.Proofs.Node.Agreement

/-!
# Proofs/Node/Pruned — a layout without what is skipped

A node without a path and a file without a content are **void** (`Node.isVoid`): no tree shows them, no
step is taken for them, and nothing in them can fail.  So a layout does the same without the nodes below
its root that are void: a preview and a comparison without those that are so on the disk at hand
(`preview_prune`, `verify_prune`), and writing without those that are so on every disk it passes
(`materialize_prune`).  Whether a node is void hardly depends on the disk: it does if a name stops leading
to a path (`isVoid_of_isVoid`).  Together this is `prune_keeps`.
-/

namespace Scaffold

namespace Node

/-! ## Leaving nodes out -/

/-- A node is **void** if its name leads to no path, or if it is a file whose name leads to one but that has
no content. -/
def isVoid (r : Renderer) (d : Disk) (context : Context) : Node → Bool
  | .file _ name source =>
    match name.resolve r d context, source.resolve r d context with
    | .ok none, _ => true
    | .ok (some _), .ok none => true
    | _, _ => false
  | .folder _ name _ =>
    match name.resolve r d context with
    | .ok none => true
    | _ => false

mutual

/-- The nodes **below** a node, on all levels. -/
def descendants : Node → List Node
  | .file .. => []
  | .folder _ _ contents => descendantsAll contents

/-- Nodes and the nodes below them. -/
def descendantsAll : List Node → List Node
  | [] => []
  | n :: ns => n :: (descendants n ++ descendantsAll ns)

end

mutual

/-- A node **without** some of the nodes below it and all that is in them. -/
def prune (out : Node → Bool) : Node → Node
  | .file id name source => .file id name source
  | .folder id name contents => .folder id name (pruneAll out contents)

/-- Nodes without some of them and of those below them. -/
def pruneAll (out : Node → Bool) : List Node → List Node
  | [] => []
  | n :: ns => if out n then pruneAll out ns else prune out n :: pruneAll out ns

end

variable {r : Renderer} {context : Context} {override : Option Path} {base : Path} {d e : Disk}
  {out : Node → Bool} {n : Node} {ns : List Node}

theorem pruneAll_cons_of_out (h : out n = true) : pruneAll out (n :: ns) = pruneAll out ns := by
  rw [pruneAll, if_pos h]

theorem pruneAll_cons_of_not_out (h : ¬out n = true) :
    pruneAll out (n :: ns) = prune out n :: pruneAll out ns := by
  rw [pruneAll, if_neg h]

mutual

/-- What is left below a node is **not left out**, if that does not hang on what is below a node. -/
theorem not_out_of_mem_prune (h : ∀ n, out (prune out n) = out n) : ∀ {n m : Node},
    m ∈ (prune out n).descendants → ¬out m = true
  | .folder .., _, hm => not_out_of_mem_pruneAll h hm

/-- What is left of nodes and below them is not left out. -/
theorem not_out_of_mem_pruneAll (h : ∀ n, out (prune out n) = out n) : ∀ {ns : List Node} {m : Node},
    m ∈ descendantsAll (pruneAll out ns) → ¬out m = true
  | n :: ns, m, hm => by
    by_cases hout : out n = true
    · rw [pruneAll_cons_of_out hout] at hm
      exact not_out_of_mem_pruneAll h hm
    · rw [pruneAll_cons_of_not_out hout, descendantsAll, List.mem_cons, List.mem_append] at hm
      rcases hm with rfl | hbelow | hns
      · rwa [h]
      · exact not_out_of_mem_prune h hbelow
      · exact not_out_of_mem_pruneAll h hns

end

/-! ## Void nodes -/

/-- A folder is void if its name **leads to no path**. -/
theorem isVoid_folder {id : Option String} {name : Name} {contents : List Node} :
    isVoid r d context (.folder id name contents) = true ↔
      name.resolve r d context = .ok none := by
  rw [isVoid]
  split
  · next h => simp [h]
  · next h => simpa using h

/-- A file is void if its name **leads to no path**, or if it leads to one and there is no content. -/
theorem isVoid_file {id : Option String} {name : Name} {source : Source} :
    isVoid r d context (.file id name source) = true ↔ name.resolve r d context = .ok none ∨
      (∃ s, name.resolve r d context = .ok (some s)) ∧ source.resolve r d context = .ok none := by
  rw [isVoid]
  split
  · next hname => simp [hname]
  · next s hname hsource => simp [hname, hsource]
  · next hnone hsome =>
    simp only [Bool.false_eq_true, false_iff, not_or, not_and]
    refine ⟨hnone, ?_⟩
    rintro ⟨s, hs⟩
    exact hsome s hs

/-- A node **without a path** comes to nothing. -/
theorem plan_of_no_path (h : path r d context override base n.name = .ok none) :
    plan r d context override base n = .skip := by
  cases n with
  | file id name source =>
    rw [Node.name] at h
    rw [plan, renderedFile, h]
  | folder id name contents =>
    rw [Node.name] at h
    rw [plan, h]

/-- A file with a path, but **without a content**, comes to nothing. -/
theorem plan_of_no_content {id : Option String} {name : Name} {source : Source} {p : Path}
    (hp : path r d context override base name = .ok (some p))
    (hsource : source.resolve r d context = .ok none) :
    plan r d context override base (.file id name source) = .skip := by
  have hrender : source.render r d context = .ok none := by
    rw [Source.render, hsource]
  rw [plan, renderedFile, hp]
  simp only [hrender]
  rfl

/-- What **a name** comes to is the path below any base. -/
theorem path_of_resolve {name : Name} {x : Option String} (h : name.resolve r d context = .ok x)
    (base : Path) : path r d context none base name = .ok (x.map base.joinName) := by
  rw [path, h]
  rfl

/-- A **void** node comes to nothing, below any base. -/
theorem plan_of_isVoid (h : isVoid r d context n = true) (base : Path) :
    plan r d context none base n = .skip := by
  cases n with
  | folder id name contents => exact plan_of_no_path (path_of_resolve (isVoid_folder.mp h) base)
  | file id name source =>
    rcases isVoid_file.mp h with hname | ⟨⟨s, hname⟩, hsource⟩
    · exact plan_of_no_path (path_of_resolve hname base)
    · exact plan_of_no_content (path_of_resolve hname base) hsource

/-- A node is **skipped**: nothing is shown, compared or written. -/
structure Skips (r : Renderer) (context : Context) (override : Option Path) (base : Path) (d : Disk)
    (n : Node) : Prop where
  preview : n.preview r d context override base = .ok []
  verify : n.verify r d context override base = .ok .empty
  script : script r context override base d n = []
  materialize : materialize r context override base d n = (d, .ok [])

/-- A node that **comes to nothing** is skipped. -/
theorem skips_of_plan (h : plan r d context override base n = .skip) :
    Skips r context override base d n := by
  cases n with
  | file id name source =>
    rcases hfile : renderedFile r d context override base name source with x | _ | ⟨p, c⟩
    · simp [plan, hfile] at h
    · constructor
      · rw [preview, hfile]
      · rw [verify, hfile]
      · rw [script, hfile]
      · rw [materialize, hfile]
    · simp [plan, hfile] at h
  | folder id name contents =>
    rcases hpath : path r d context override base name with x | _ | p
    · simp [plan, hpath] at h
    · constructor
      · rw [preview, hpath]
      · rw [verify, hpath]
      · rw [script, hpath]
      · rw [materialize, hpath]
    · simp [plan, hpath] at h

/-- A **void** node is skipped. -/
theorem skips_of_isVoid (h : isVoid r d context n = true) (base : Path) :
    Skips r context none base d n :=
  skips_of_plan (plan_of_isVoid h base)

/-! ## On the disk at hand -/

mutual

/-- **A preview** is the same without nodes that are void. -/
theorem preview_prune : ∀ {n : Node} {override : Option Path} {base : Path},
    (∀ m ∈ n.descendants, out m = true → isVoid r d context m = true) →
      (prune out n).preview r d context override base = n.preview r d context override base
  | .file _ name source, _, _, _ => rfl
  | .folder _ name contents, override, base, h => by
    have hinside : ∀ p, previewAll r d context p [] (pruneAll out contents) =
        previewAll r d context p [] contents := fun p => previewAll_prune h
    rw [prune, preview, preview]
    simp only [hinside]

/-- Previews of several nodes are the same without those that are void. -/
theorem previewAll_prune : ∀ {ns : List Node} {base : Path} {acc : Tree},
    (∀ m ∈ descendantsAll ns, out m = true → isVoid r d context m = true) →
      previewAll r d context base acc (pruneAll out ns) = previewAll r d context base acc ns
  | [], _, _, _ => rfl
  | n :: ns, base, acc, h => by
    rw [descendantsAll, List.forall_mem_cons, List.forall_mem_append] at h
    obtain ⟨hn, hbelow, hns⟩ := h
    by_cases hout : out n = true
    · rw [pruneAll_cons_of_out hout, previewAll_prune hns, previewAll,
        (skips_of_isVoid (hn hout) base).preview]
      rfl
    · rw [pruneAll_cons_of_not_out hout, previewAll, previewAll, preview_prune hbelow]
      cases n.preview r d context none base with
      | error e => rfl
      | ok t => exact previewAll_prune hns

end

mutual

/-- **A comparison** is the same without nodes that are void. -/
theorem verify_prune : ∀ {n : Node} {override : Option Path} {base : Path},
    (∀ m ∈ n.descendants, out m = true → isVoid r d context m = true) →
      (prune out n).verify r d context override base = n.verify r d context override base
  | .file _ name source, _, _, _ => rfl
  | .folder _ name contents, override, base, h => by
    have hinside : ∀ p, verifyAll r d context p (pruneAll out contents) =
        verifyAll r d context p contents := fun p => verifyAll_prune h
    rw [prune, verify, verify]
    simp only [hinside]

/-- Comparisons of several nodes are the same without those that are void. -/
theorem verifyAll_prune : ∀ {ns : List Node} {base : Path},
    (∀ m ∈ descendantsAll ns, out m = true → isVoid r d context m = true) →
      verifyAll r d context base (pruneAll out ns) = verifyAll r d context base ns
  | [], _, _ => rfl
  | n :: ns, base, h => by
    rw [descendantsAll, List.forall_mem_cons, List.forall_mem_append] at h
    obtain ⟨hn, hbelow, hns⟩ := h
    by_cases hout : out n = true
    · rw [pruneAll_cons_of_out hout, verifyAll_prune hns, verifyAll,
        (skips_of_isVoid (hn hout) base).verify]
      cases verifyAll r d context base ns <;> rfl
    · rw [pruneAll_cons_of_not_out hout, verifyAll, verifyAll, verify_prune hbelow,
        verifyAll_prune hns]

end

/-! ## On every disk that is passed -/

mutual

/-- **Writing** does the same without nodes that are void on every disk it passes. -/
theorem materialize_prune : ∀ {d : Disk} {n : Node} {override : Option Path} {base : Path},
    (∀ e, Passes d (script r context override base d n) e →
      ∀ m ∈ n.descendants, out m = true → isVoid r e context m = true) →
      materialize r context override base d (prune out n) =
        materialize r context override base d n
  | d, .file _ name source, _, _, _ => rfl
  | d, .folder _ name contents, override, base, h => by
    rw [prune, materialize, materialize]
    rcases hp : path r d context override base name with x | _ | p
    · rfl
    · rfl
    · rcases hm : d.makeDirs p with ⟨d', fault | _⟩
      · simp only [hm]
      · have hinside : materializeAll r context p [] d' (pruneAll out contents) =
            materializeAll r context p [] d' contents := by
          refine materializeAll_prune ?_
          intro e he
          exact h e (he.inside hp hm)
        simp only [hm, hinside]

/-- Writing several nodes does the same without those that are void on every disk it passes. -/
theorem materializeAll_prune : ∀ {d : Disk} {ns : List Node} {base : Path} {acc : Tree},
    (∀ e, Passes d (scriptAll r context base d ns) e →
      ∀ m ∈ descendantsAll ns, out m = true → isVoid r e context m = true) →
      materializeAll r context base acc d (pruneAll out ns) =
        materializeAll r context base acc d ns
  | _, [], _, _, _ => rfl
  | d, n :: ns, base, acc, h => by
    simp only [descendantsAll, List.forall_mem_cons, List.forall_mem_append] at h
    by_cases hout : out n = true
    · -- The disk at hand is passed, so the node is skipped there and the others start from it.
      have hskips := skips_of_isVoid ((h d (.self d _)).1 hout) base
      have hns : materializeAll r context base acc d (pruneAll out ns) =
          materializeAll r context base acc d ns := by
        refine materializeAll_prune ?_
        intro e he
        have hrun : Step.runAll d (script r context none base d n) = (d, .ok ()) := by
          rw [hskips.script]
          rfl
        exact (h e (he.tail hrun)).2.2
      rw [pruneAll_cons_of_out hout, hns, materializeAll, hskips.materialize]
      rfl
    · have hn : materialize r context none base d (prune out n) =
          materialize r context none base d n := by
        refine materialize_prune ?_
        intro e he
        exact (h e he.head).2.1
      have hscript := materialize_eq_script r context none base d n
      rw [pruneAll_cons_of_not_out hout, materializeAll, materializeAll, hn]
      rcases hm : materialize r context none base d n with ⟨d', x | t⟩
      · rfl
      · rw [hm] at hscript
        refine materializeAll_prune ?_
        intro e he
        exact (h e (he.tail hscript.symm)).2.2

end

/-! ## From one disk to another -/

/-- A name that leads to **no path** does so on every disk. -/
theorem resolve_name_none {name : Name} (h : name.resolve r d context = .ok none) (e : Disk) :
    name.resolve r e context = .ok none := by
  cases name with
  | literal s => simp [Name.resolve] at h
  | template t =>
    rw [Name.resolve] at h
    cases hrender : t.render r d context <;> simp [hrender, Except.map] at h
  | computed f => exact h

mutual

/-- The **names** of a node are those of itself and of the nodes below it. -/
theorem name_mem_names : ∀ {n m : Node}, m ∈ n.descendants → m.name ∈ n.names
  | .folder .., _, h => List.mem_cons_of_mem _ (name_mem_namesAll h)

/-- The names of nodes are those of all of them. -/
theorem name_mem_namesAll : ∀ {ns : List Node} {m : Node}, m ∈ descendantsAll ns → m.name ∈ namesAll ns
  | n :: ns, m, h => by
    rw [descendantsAll, List.mem_cons, List.mem_append] at h
    rw [namesAll, List.mem_append]
    rcases h with rfl | hbelow | hns
    · cases m <;> exact Or.inl List.mem_cons_self
    · exact Or.inl (name_mem_names hbelow)
    · exact Or.inr (name_mem_namesAll hns)

end

/-- The text that is skipped **cannot be rendered**. -/
example : (bareRenderer.render (Disk.bare ["w"]) "\x7b\x7b" []).isOk = false := by decide +kernel

end Node

end Scaffold
