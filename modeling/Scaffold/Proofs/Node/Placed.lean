import Scaffold.Proofs.Node.Plan
import Scaffold.Proofs.Path.Components

/-!
# Proofs/Node/Placed — one place, written in two ways

Two trees are the same if they hold the same at the same places, however these are written
(`Tree.Same`).  Adding to trees that are the same keeps them the same (`Tree.Same.extend`), so the
nodes of a folder come to the same tree below any two paths to one place (`treeAll_placed`).
-/

namespace Scaffold

/-! ## Trees that are the same -/

namespace Tree

mutual

/-- Entries that hold the **same**: one content, or trees that are the same. -/
def SameEntry : Rendered → Rendered → Prop
  | .file content, .file content' => content = content'
  | .folder t, .folder u => Same t u
  | _, _ => False

/-- Trees that hold the **same at the same places**, in the same order. -/
def Same : List (Path × Rendered) → List (Path × Rendered) → Prop
  | [], [] => True
  | (p, x) :: t, (q, y) :: u => p.sameAs q = true ∧ SameEntry x y ∧ Same t u
  | _, _ => False

end

/-- Adding an entry to trees that are the same **keeps** them the same. -/
theorem Same.insert {p q : Path} {x y : Rendered} (hpath : p.sameAs q = true)
    (hentry : SameEntry x y) : ∀ {t u : Tree}, Same t u →
      Same (Tree.insert t p x) (Tree.insert u q y)
  | [], [], _ => ⟨hpath, hentry, trivial⟩
  | (a, x') :: t, (b, y') :: u, h => by
    obtain ⟨hab, hold, hrest⟩ := h
    have hthere : a.sameAs p = b.sameAs q :=
      (Path.sameAs_congr hab p).trans (Path.sameAs_congr_right hpath b)
    rw [Tree.insert, Tree.insert, hthere]
    split
    · exact ⟨hab, hentry, hrest⟩
    · exact ⟨hab, hold, Same.insert hpath hentry hrest⟩

/-- Adding trees that are the same keeps trees the **same**. -/
theorem Same.extend : ∀ {s v t u : Tree}, Same t u → Same s v →
    Same (Tree.extend t s) (Tree.extend u v)
  | [], [], _, _, h, _ => h
  | (_, _) :: _, (_, _) :: _, _, _, h, ⟨hpath, hentry, hrest⟩ => by
    rw [Tree.extend, Tree.extend, List.foldl_cons, List.foldl_cons]
    exact Same.extend (Same.insert hpath hentry h) hrest

mutual

/-- Entries that hold the same at one place hold the **same content** for a path. -/
theorem SameEntry.findIn {p q : Path} (hpath : p.sameAs q = true) (wanted : Path) :
    ∀ {x y : Rendered}, SameEntry x y → Tree.findIn wanted p x = Tree.findIn wanted q y
  | .file content, .file content', h => by
    obtain rfl : content = content' := h
    rw [Tree.findIn, Tree.findIn, Path.sameAs_congr hpath]
  | .folder _, .folder _, h => by
    rw [Tree.findIn, Tree.findIn]
    exact Same.findContent wanted h

/-- **Trees that are the same** hold the same content for every path. -/
theorem Same.findContent (wanted : Path) : ∀ {t u : Tree}, Same t u →
    Tree.findContent wanted t = Tree.findContent wanted u
  | [], [], _ => rfl
  | (_, _) :: _, (_, _) :: _, ⟨hpath, hentry, hrest⟩ => by
    rw [Tree.findContent, Tree.findContent, SameEntry.findIn hpath wanted hentry,
      Same.findContent wanted hrest]

end

end Tree

/-! ## Below paths to one place -/

namespace Node

variable {r : Renderer} {d : Disk} {context : Context}

/-- Below a path that is not empty no path is. -/
theorem path_isEmpty {override : Option Path} {base p : Path} {name : Name}
    (hbase : base.text.isEmpty = false)
    (hp : path r d context override base name = .ok (some p)) : p.text.isEmpty = false := by
  have hjoin : ∃ q, p = base.join q := by
    cases override with
    | some q => exact ⟨q, (Option.some.inj (Except.ok.inj hp)).symm⟩
    | none =>
      simp only [path] at hp
      rcases hs : name.resolve r d context with x | _ | s
      · rw [hs] at hp
        simp [Except.map] at hp
      · rw [hs] at hp
        simp [Except.map] at hp
      · rw [hs] at hp
        exact ⟨⟨s⟩, (Option.some.inj (Except.ok.inj hp)).symm⟩
  obtain ⟨q, rfl⟩ := hjoin
  rw [← Bool.not_eq_true] at hbase ⊢
  exact fun h => hbase (Path.isEmpty_of_join h)

/-- Names lead to the **same place** below paths to one place. -/
theorem path_placed {base base' : Path} (hbase : base.sameAs base' = true)
    (hne : base.text.isEmpty = false) (hne' : base'.text.isEmpty = false) (name : Name) :
    (∃ e, path r d context none base name = .error e ∧
        path r d context none base' name = .error e) ∨
      (path r d context none base name = .ok none ∧ path r d context none base' name = .ok none) ∨
      ∃ p p', path r d context none base name = .ok (some p) ∧
        path r d context none base' name = .ok (some p') ∧ p.sameAs p' = true := by
  rw [path, path]
  rcases name.resolve r d context with e | _ | s
  · exact Or.inl ⟨e, rfl, rfl⟩
  · exact Or.inr (Or.inl ⟨rfl, rfl⟩)
  · exact Or.inr (Or.inr ⟨base.joinName s, base'.joinName s, rfl, rfl,
      Path.sameAs_join hbase hne hne' ⟨s⟩⟩)

mutual

/-- **Below paths to one place** a node comes to the same. -/
theorem tree_placed : ∀ (n : Node) {base base' : Path}, base.sameAs base' = true →
    base.text.isEmpty = false → base'.text.isEmpty = false →
      (plan r d context none base n).fault? = (plan r d context none base' n).fault? ∧
        Tree.Same (plan r d context none base n).tree (plan r d context none base' n).tree
  | .file _ name source, base, base', hbase, hne, hne' => by
    rw [plan, plan, renderedFile, renderedFile]
    rcases @path_placed r d context base base' hbase hne hne' name with ⟨e, hp, hp'⟩ | ⟨hp, hp'⟩ |
      ⟨p, p', hp, hp', hsame⟩
    · rw [hp, hp']
      exact ⟨rfl, trivial⟩
    · rw [hp, hp']
      exact ⟨rfl, trivial⟩
    · rw [hp, hp']
      rcases source.render r d context with e | _ | content
      · exact ⟨rfl, trivial⟩
      · exact ⟨rfl, trivial⟩
      · exact ⟨rfl, hsame, rfl, trivial⟩
  | .folder _ name contents, base, base', hbase, hne, hne' => by
    rw [plan, plan]
    rcases @path_placed r d context base base' hbase hne hne' name with ⟨e, hp, hp'⟩ | ⟨hp, hp'⟩ |
      ⟨p, p', hp, hp', hsame⟩
    · rw [hp, hp']
      exact ⟨rfl, trivial⟩
    · rw [hp, hp']
      exact ⟨rfl, trivial⟩
    · obtain ⟨hfault, htree⟩ :=
        treeAll_placed contents hsame (path_isEmpty hne hp) (path_isEmpty hne' hp')
      rw [hp, hp']
      exact ⟨hfault, hsame, htree trivial, trivial⟩

/-- Below paths to one place several nodes come to the same. -/
theorem treeAll_placed : ∀ (ns : List Node) {base base' : Path}, base.sameAs base' = true →
    base.text.isEmpty = false → base'.text.isEmpty = false →
      Plan.faultAll? (planAll r d context base ns) = Plan.faultAll? (planAll r d context base' ns) ∧
        ∀ {acc acc' : Tree}, Tree.Same acc acc' →
          Tree.Same (Plan.treeAll acc (planAll r d context base ns))
            (Plan.treeAll acc' (planAll r d context base' ns))
  | [], base, base', hbase, hne, hne' => ⟨rfl, id⟩
  | n :: ns, base, base', hbase, hne, hne' => by
    obtain ⟨hfault, htree⟩ := tree_placed n hbase hne hne'
    obtain ⟨hrest, htrees⟩ := treeAll_placed ns hbase hne hne'
    rw [planAll, planAll]
    refine ⟨?_, fun hacc => ?_⟩
    · rw [Plan.faultAll?, Plan.faultAll?, hfault, hrest]
    · rw [Plan.treeAll, Plan.treeAll]
      exact htrees (hacc.extend htree)

end

end Node

end Scaffold
