import Scaffold.Proofs.Disk.Below
import Scaffold.Proofs.Node.Inside
import Scaffold.Proofs.Node.Pruned

/-!
# Proofs/Node/Confined — names that lead inward confine a layout

Where all names below the root of a layout come to texts that lead inward (`Node.LeadsInward`), a layout
stays where its root is.  In its tree every entry goes on from the path of the folder it stands in
(`Tree.NestedIn`, `nestedIn_of_plan`).  Writing it, however that ends, changes the disk below the root
alone, but for directories that are missing on the way there (`confined_materialize`).  Together this is
`inward_names_confine`.
-/

namespace Scaffold

/-! ## Trees that are nested -/

namespace Tree

mutual

/-- An entry is **nested** at a path: every entry in it goes on from the path, and is nested at its own. -/
def NestedIn (p : Path) : Rendered → Prop
  | .file _ => True
  | .folder children => NestedBelow p children

/-- All entries of a tree **go on from a path**, and are nested at their own. -/
def NestedBelow (p : Path) : List (Path × Rendered) → Prop
  | [] => True
  | (q, e) :: t => p.components <+: q.components ∧ NestedIn q e ∧ NestedBelow p t

end

variable {t u : Tree} {p q : Path} {e : Rendered}

theorem nestedBelow_iff : ∀ {t : Tree}, NestedBelow p t ↔
    ∀ q e, (q, e) ∈ t → p.components <+: q.components ∧ NestedIn q e
  | [] => by simp [NestedBelow]
  | (q', e') :: t => by
    rw [NestedBelow, nestedBelow_iff]
    constructor
    · rintro ⟨hp, hin, ht⟩ q e hmem
      rcases List.mem_cons.mp hmem with heq | hmem
      · obtain ⟨rfl, rfl⟩ := Prod.mk.inj heq
        exact ⟨hp, hin⟩
      · exact ht q e hmem
    · intro h
      obtain ⟨hp, hin⟩ := h q' e' List.mem_cons_self
      exact ⟨hp, hin, fun q e hmem => h q e (List.mem_cons_of_mem _ hmem)⟩

/-- What is nested at a path is so at every path to the **same place**. -/
theorem NestedIn.of_sameAs (h : NestedIn p e) (hpq : q.sameAs p = true) : NestedIn q e := by
  cases e with
  | file content => trivial
  | folder children =>
    rw [NestedIn, nestedBelow_iff] at h ⊢
    rwa [Path.sameAs_iff.mp hpq]

/-- Adding an entry that goes on from a path keeps a tree **nested** below it. -/
theorem NestedBelow.insert (hp : p.components <+: q.components) (he : NestedIn q e) :
    ∀ {t : Tree}, NestedBelow p t → NestedBelow p (Tree.insert t q e)
  | [], _ => ⟨hp, he, trivial⟩
  | (q', old) :: t, ⟨hq', hold, ht⟩ => by
    rw [Tree.insert]
    split
    · next hsame => exact ⟨hq', he.of_sameAs hsame, ht⟩
    · exact ⟨hq', hold, ht.insert hp he⟩

/-- Adding a tree that is nested below a path keeps a tree **nested** below it. -/
theorem NestedBelow.extend : ∀ {u t : Tree}, NestedBelow p t → NestedBelow p u →
    NestedBelow p (Tree.extend t u)
  | [], _, ht, _ => ht
  | (_, _) :: _, _, ht, ⟨hq, he, hu⟩ => (ht.insert hq he).extend hu

mutual

/-- All paths of an entry that is nested **go on from** its own. -/
theorem NestedIn.prefix_of_mem : ∀ {e : Rendered} {p q : Path}, NestedIn p e → q ∈ keysIn p e →
    p.components <+: q.components
  | .file _, p, q, _, hq => by
    obtain rfl := List.mem_singleton.mp hq
    exact List.prefix_refl _
  | .folder children, p, q, h, hq => by
    rcases List.mem_cons.mp hq with rfl | hq
    · exact List.prefix_refl _
    · exact NestedBelow.prefix_of_mem h hq

/-- All keys of a tree that is nested below a path **go on from** it. -/
theorem NestedBelow.prefix_of_mem : ∀ {t : List (Path × Rendered)} {p q : Path}, NestedBelow p t →
    q ∈ keys t → p.components <+: q.components
  | (q', e) :: t, p, q, ⟨hq', he, ht⟩, hq => by
    rcases List.mem_append.mp hq with hq | hq
    · exact hq'.trans (NestedIn.prefix_of_mem he hq)
    · exact NestedBelow.prefix_of_mem ht hq

end

end Tree

/-! ## Names that lead inward -/

namespace Node

mutual

/-- The texts that the names **below** a node come to.  Inside a node without a name there are none, as it is
skipped. -/
def reached (r : Renderer) (d : Disk) (context : Context) : Node → List String
  | .file .. => []
  | .folder _ _ contents => reachedAll r d context contents

/-- The texts that the names of nodes, and those below them, come to. -/
def reachedAll (r : Renderer) (d : Disk) (context : Context) : List Node → List String
  | [] => []
  | n :: ns =>
    (match n.name.resolve r d context with
      | .ok (some s) => s :: reached r d context n
      | .ok none => []
      | .error _ => reached r d context n) ++ reachedAll r d context ns

end

variable {r : Renderer} {context : Context} {override : Option Path} {base p : Path} {d e : Disk}
  {n : Node} {ns : List Node} {s : String}

/-- The text that **the name** of a node comes to is one of them. -/
theorem mem_reachedAll_self (h : n.name.resolve r d context = .ok (some s)) (ns : List Node) :
    s ∈ reachedAll r d context (n :: ns) := by
  rw [reachedAll, h]
  exact List.mem_append_left _ List.mem_cons_self

/-- The texts below a node that is not skipped are **among** them. -/
theorem mem_reachedAll_inside (h : n.name.resolve r d context ≠ .ok none)
    (hs : s ∈ reached r d context n) (ns : List Node) : s ∈ reachedAll r d context (n :: ns) := by
  rw [reachedAll]
  refine List.mem_append_left _ ?_
  split
  · exact List.mem_cons_of_mem _ hs
  · next hnone => exact absurd hnone h
  · exact hs

/-- The texts of the **other** nodes are among them. -/
theorem mem_reachedAll_tail (hs : s ∈ reachedAll r d context ns) (n : Node) :
    s ∈ reachedAll r d context (n :: ns) := by
  rw [reachedAll]
  exact List.mem_append_right _ hs

/-- All names below a node **lead inward**. -/
def LeadsInward (r : Renderer) (d : Disk) (context : Context) (n : Node) : Prop :=
  ∀ s ∈ n.reached r d context, Path.Inward s

instance : Decidable (LeadsInward r d context n) :=
  inferInstanceAs (Decidable (∀ s ∈ n.reached r d context, Path.Inward s))

/-- Names below a node that has a name on some disk are **among those** of a list it is in front of. -/
theorem leadsInward_of_all (hname : n.name.resolve r d context = .ok (some s))
    (h : ∀ t ∈ reachedAll r e context (n :: ns), Path.Inward t) : LeadsInward r e context n := by
  intro t ht
  refine h t (mem_reachedAll_inside ?_ ht ns)
  -- A name that is absent on one disk is so on every other.
  intro hnone
  rw [resolve_name_none hnone d] at hname
  simp at hname

mutual

/-- Names come to the same texts on disks that hold the **same resources**. -/
theorem reached_congr (h : ∀ resource, r.loadResource e resource = r.loadResource d resource) :
    ∀ n : Node, reached r e context n = reached r d context n
  | .file .. => rfl
  | .folder _ _ contents => by
    rw [reached, reached, reachedAll_congr h contents]

/-- Names of nodes come to the same texts on disks that hold the same resources. -/
theorem reachedAll_congr (h : ∀ resource, r.loadResource e resource = r.loadResource d resource) :
    ∀ ns : List Node, reachedAll r e context ns = reachedAll r d context ns
  | [] => rfl
  | n :: ns => by
    rw [reachedAll, reachedAll, resolve_congr h, reached_congr h n, reachedAll_congr h ns]

end

/-! ## In the tree -/

/-- An entry of the tree of a node is at **its path**. -/
theorem path_of_mem_plan {q : Path} {x : Rendered}
    (h : (q, x) ∈ (plan r d context override base n).tree) :
    path r d context override base n.name = .ok (some q) := by
  rcases hp : (plan r d context override base n).path? with _ | p
  · rw [Plan.tree_of_path?_none hp] at h
    exact absurd h List.not_mem_nil
  · obtain ⟨y, hy⟩ := Plan.tree_of_path? hp
    rw [hy, List.mem_singleton, Prod.mk.injEq] at h
    rw [h.1]
    exact path_of_plan hp

mutual

/-- The tree of a node whose names lead inward is **nested** at its path. -/
theorem nestedIn_of_plan : ∀ {n : Node} {override : Option Path} {base q : Path} {x : Rendered},
    LeadsInward r d context n → (q, x) ∈ (plan r d context override base n).tree → Tree.NestedIn q x
  | .file _ name source, override, base, q, x, _, hmem => by
    rw [plan] at hmem
    split at hmem
    · simp [Plan.tree] at hmem
    · simp [Plan.tree] at hmem
    · obtain ⟨rfl, rfl⟩ := Prod.mk.inj (List.mem_singleton.mp hmem)
      trivial
  | .folder _ name contents, override, base, q, x, h, hmem => by
    rw [plan] at hmem
    split at hmem
    · simp [Plan.tree] at hmem
    · simp [Plan.tree] at hmem
    · obtain ⟨rfl, rfl⟩ := Prod.mk.inj (List.mem_singleton.mp hmem)
      exact nestedBelow_planAll h trivial

/-- The trees of nodes whose names lead inward add up to one that is **nested** below any path. -/
theorem nestedBelow_planAll : ∀ {ns : List Node} {base : Path} {acc : Tree},
    (∀ s ∈ reachedAll r d context ns, Path.Inward s) → Tree.NestedBelow base acc →
      Tree.NestedBelow base (Plan.treeAll acc (planAll r d context base ns))
  | [], _, _, _, hacc => hacc
  | n :: ns, base, acc, h, hacc => by
    rw [planAll, Plan.treeAll]
    refine nestedBelow_planAll (fun s hs => h s (mem_reachedAll_tail hs n)) (hacc.extend ?_)
    rw [Tree.nestedBelow_iff]
    intro q x hmem
    obtain ⟨s, hs, rfl⟩ := path_eq_ok (path_of_mem_plan hmem)
    have hinward := h s (mem_reachedAll_self hs ns)
    exact ⟨Path.prefix_components_join hinward.relative base,
      nestedIn_of_plan (leadsInward_of_all hs h) hmem⟩

end

/-! ## On the disk -/

/-- A node **without a path** leaves the disk as it is. -/
theorem materialize_of_no_path (h : ∀ p, path r d context override base n.name ≠ .ok (some p)) :
    (materialize r context override base d n).1 = d := by
  cases n with
  | file id name source =>
    rw [Node.name] at h
    rw [materialize, renderedFile]
    rcases hp : path r d context override base name with y | _ | p
    · rfl
    · rfl
    · exact absurd hp (h p)
  | folder id name contents =>
    rw [Node.name] at h
    rw [materialize]
    rcases hp : path r d context override base name with y | _ | p
    · rfl
    · rfl
    · exact absurd hp (h p)

/-- A **file** changes the disk at its path alone. -/
theorem confined_file {id : Option String} {name : Name} {source : Source}
    (hp : path r d context override base name = .ok (some p)) :
    Disk.Confined d p (materialize r context override base d (.file id name source)).1 := by
  rw [materialize, renderedFile, hp]
  rcases source.render r d context with y | _ | content
  · exact .refl d p
  · exact .refl d p
  · simp only [Except.map, Option.map_some]
    cases hw : d.writeFile p content.toBytes with
    | error fault => exact .refl d p
    | ok d' => exact Disk.confined_writeFile hw

/-- A **folder** changes the disk below its path alone if what is in it does. -/
theorem confined_folder {id : Option String} {name : Name} {contents : List Node}
    (hp : path r d context override base name = .ok (some p))
    (hinside : ∀ d', d.makeDirs p = (d', .ok ()) →
      Disk.Confined d' p (materializeAll r context p [] d' contents).1) :
    Disk.Confined d p (materialize r context override base d (.folder id name contents)).1 := by
  have hmade := Disk.confined_makeDirs d p
  rw [materialize, hp]
  rcases hm : d.makeDirs p with ⟨d', fault | _⟩
  · rw [hm] at hmade
    simpa only [hm] using hmade
  · rw [hm] at hmade
    have hall := hmade.trans (hinside d' hm)
    simp only [hm]
    rcases hwritten : materializeAll r context p [] d' contents with ⟨d'', x | t⟩
    · rwa [hwritten] at hall
    · rwa [hwritten] at hall

/-- A node whose name leads inward changes the disk **below its base** alone, if below its path. -/
theorem confined_of_name
    (hinward : ∀ s, n.name.resolve r d context = .ok (some s) → Path.Inward s)
    (h : ∀ s, n.name.resolve r d context = .ok (some s) →
      Disk.Confined d (base.joinName s) (materialize r context none base d n).1) :
    Disk.Confined d base (materialize r context none base d n).1 := by
  by_cases hpath : ∃ p, path r d context none base n.name = .ok (some p)
  · obtain ⟨p, hp⟩ := hpath
    obtain ⟨s, hs, -⟩ := path_eq_ok hp
    exact (h s hs).of_joinName (hinward s hs)
  · rw [materialize_of_no_path (not_exists.mp hpath)]
    exact .refl d base

mutual

/-- **Writing** a node whose names lead inward changes the disk below its path alone. -/
theorem confined_materialize : ∀ {d : Disk} {n : Node} {override : Option Path} {base p : Path},
    (∀ e, Passes d (script r context override base d n) e → LeadsInward r e context n) →
      path r d context override base n.name = .ok (some p) →
        Disk.Confined d p (materialize r context override base d n).1
  | _, .file .., _, _, _, _, hp => confined_file hp
  | d, .folder _ name contents, override, base, p, h, hp => by
    refine confined_folder hp ?_
    intro d' hm
    refine confined_materializeAll ?_
    intro e he
    exact h e (he.inside hp hm)

/-- Writing nodes whose names lead inward changes the disk below their path alone. -/
theorem confined_materializeAll : ∀ {d : Disk} {ns : List Node} {base : Path} {acc : Tree},
    (∀ e, Passes d (scriptAll r context base d ns) e →
      ∀ s ∈ reachedAll r e context ns, Path.Inward s) →
      Disk.Confined d base (materializeAll r context base acc d ns).1
  | d, [], base, _, _ => Disk.Confined.refl d base
  | d, n :: ns, base, acc, h => by
    have hn : Disk.Confined d base (materialize r context none base d n).1 := by
      refine confined_of_name (fun s hs => h d (.self d _) s (mem_reachedAll_self hs ns)) ?_
      intro s hs
      refine confined_materialize ?_ (path_of_resolve hs base)
      intro e he
      exact leadsInward_of_all hs (h e he.head)
    have hscript := materialize_eq_script r context none base d n
    rw [materializeAll]
    rcases hm : materialize r context none base d n with ⟨d', x | t⟩
    · rwa [hm] at hn
    · rw [hm] at hn hscript
      refine hn.trans (confined_materializeAll ?_)
      intro e he s hs
      exact h e (he.tail hscript.symm) s (mem_reachedAll_tail hs n)

end

/-- **Names that lead inward confine a layout.**  Where all names below the root do so, the root is the only
entry of the tree, and every entry in it goes on from the path of the folder it stands in, so from that of
the root.  Where they do so on every disk that writing passes, it changes the disk below the path of the
root alone, however it ends, but for directories that are missing on the way there; without a path for the
root it changes nothing.  Over resources in memory names lead inward on all disks if they do on one. -/
theorem inward_names_confine (r : Renderer) (context : Context) (override : Option Path) (base : Path)
    (d : Disk) (n : Node) :
    (LeadsInward r d context n → ∀ t, n.preview r d context override base = .ok t →
      ∀ p x, (p, x) ∈ t → path r d context override base n.name = .ok (some p) ∧
        Tree.NestedIn p x ∧ ∀ q ∈ Tree.keysIn p x, p.components <+: q.components) ∧
      ((∀ e, Passes d (script r context override base d n) e → LeadsInward r e context n) →
        (∀ p, path r d context override base n.name = .ok (some p) →
          Disk.Confined d p (materialize r context override base d n).1) ∧
        ((∀ p, path r d context override base n.name ≠ .ok (some p)) →
          (materialize r context override base d n).1 = d)) ∧
      (r.IsEmbedded → LeadsInward r d context n → ∀ e, LeadsInward r e context n) := by
  refine ⟨?_, ?_, ?_⟩
  · intro h t ht p x hmem
    rw [preview_eq_plan, Plan.answer_eq_ok] at ht
    obtain ⟨-, rfl⟩ := ht
    have hnested := nestedIn_of_plan h hmem
    exact ⟨path_of_mem_plan hmem, hnested, fun q hq => hnested.prefix_of_mem hq⟩
  · intro h
    exact ⟨fun p => confined_materialize h, materialize_of_no_path⟩
  · intro hr h e
    rwa [LeadsInward, reached_congr fun resource => Renderer.loadFirst_of_embedded d e resource hr]

/-- A folder with names that hold slashes and dots, and a file that cannot be written. -/
def handbook : Node :=
  .folder none (.literal "book") [.folder none (.literal "guide/./de/")
    [.file none (.literal "index") (.text "about"), .file none (.literal "no/such/index") (.text "")]]

/-- Below a path that goes up one file is written and the other is not, and what stands elsewhere stays. -/
theorem inward_names_confine_handbook : bareRenderer.IsEmbedded ∧
    LeadsInward bareRenderer (Disk.bare ["w"]) [] handbook ∧
    (∃ t, handbook.preview bareRenderer (Disk.bare ["w"]) [] none ⟨"a/../b"⟩ = .ok t ∧
      ∀ p x, (p, x) ∈ t → p = ⟨"a/../b/book"⟩ ∧
        ∀ q ∈ Tree.keysIn p x, p.components <+: q.components) ∧
    (materialize bareRenderer [] none ⟨"a/../b"⟩ (Disk.bare ["w"]) handbook).2.isOk = false ∧
    (materialize bareRenderer [] none ⟨"a/../b"⟩ (Disk.bare ["w"]) handbook).1.look ["w", "c"] =
      (Disk.bare ["w"]).look ["w", "c"] := by
  obtain ⟨htree, hdisk, hall⟩ :=
    inward_names_confine bareRenderer [] none ⟨"a/../b"⟩ (Disk.bare ["w"]) handbook
  have hinward : LeadsInward bareRenderer (Disk.bare ["w"]) [] handbook := by decide +kernel
  have hpath : path bareRenderer (Disk.bare ["w"]) [] none ⟨"a/../b"⟩ handbook.name =
      .ok (some ⟨"a/../b/book"⟩) := by
    have hjoin : (⟨"a/../b"⟩ : Path).joinName "book" = ⟨"a/../b/book"⟩ := by decide +kernel
    rw [← hjoin]
    rfl
  obtain ⟨t, ht⟩ := exists_of_isOk (by decide +kernel :
    (handbook.preview bareRenderer (Disk.bare ["w"]) [] none ⟨"a/../b"⟩).isOk = true)
  refine ⟨isEmbedded_bareRenderer, hinward, ⟨t, ht, ?_⟩, by decide +kernel, ?_⟩
  · intro p x hmem
    obtain ⟨hp, -, hkeys⟩ := htree hinward t ht p x hmem
    exact ⟨Option.some.inj (Except.ok.inj (hp.symm.trans hpath)), hkeys⟩
  · obtain ⟨hconfined, -⟩ := hdisk fun e _ => hall isEmbedded_bareRenderer hinward e
    rcases (hconfined _ hpath).look ["w", "c"] with hsame | hbelow | ⟨hmem, -⟩
    · exact hsame
    · exact absurd hbelow (by decide +kernel)
    · exact absurd hmem (by decide +kernel)

/-- A directory on the way to the root that was missing is **made**. -/
example : (materialize bareRenderer [] none ⟨"a/../b"⟩ (Disk.bare ["w"]) handbook).1.isDirectory ⟨"a"⟩ =
    true := by decide +kernel

end Node

end Scaffold
