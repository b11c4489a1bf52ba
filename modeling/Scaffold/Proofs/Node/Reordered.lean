import Mathlib.Data.List.Perm.Basic
import Scaffold.Proofs.Node.Commute
import Scaffold.Proofs.Node.Repeated
import Scaffold.Proofs.Node.TreeMap

/-!
# Proofs/Node/Reordered — the order of children matters for display only

Children that are reordered, at any depth, come to plans that are reordered (`Plan.Reordered`).  A
comparison lists the same paths under the same verdicts for them (`Plan.Reordered.due_perm`).  Where
the children of each folder have plain names, no two the same (`Plan.Tidy`), the steps of two
neighbours may be taken in either order, so reordered plans end alike (`Plan.Reordered.sameEnd`), and
their trees are equal as maps (`Plan.Reordered.sameMap`).
-/

namespace Scaffold

namespace Plan

/-! ## Reordered plans -/

/-- Plans that come from others by **reordering** them, or what is inside one of them. -/
inductive Reordered : List Plan → List Plan → Prop where
  | refl (xs : List Plan) : Reordered xs xs
  | cons (x : Plan) {xs ys : List Plan} (h : Reordered xs ys) : Reordered (x :: xs) (x :: ys)
  | inside (p : Path) {xs ys : List Plan} (zs : List Plan) (h : Reordered xs ys) :
      Reordered (.folder p xs :: zs) (.folder p ys :: zs)
  | swap (x y : Plan) (zs : List Plan) : Reordered (x :: y :: zs) (y :: x :: zs)
  | trans {xs ys zs : List Plan} (h : Reordered xs ys) (h' : Reordered ys zs) : Reordered xs zs

variable {xs ys : List Plan} {p : Path} {d : Disk}

/-- Plans **fail** if one of them does. -/
theorem isSome_faultAll? (xs : List Plan) :
    (faultAll? xs).isSome = xs.any fun x => x.fault?.isSome := by
  induction xs with
  | nil => rfl
  | cons x xs ih =>
    rw [faultAll?, List.any_cons, ← ih]
    cases fault? x <;> rfl

/-- Reordered plans **fail together**. -/
theorem Reordered.fault (h : Reordered xs ys) : (faultAll? xs).isSome = (faultAll? ys).isSome := by
  induction h with
  | refl xs => rfl
  | cons x _ ih => 
    rw [isSome_faultAll?, isSome_faultAll?] at ih ⊢
    rw [List.any_cons, List.any_cons, ih]
  | inside p zs _ ih =>
    rw [isSome_faultAll?, isSome_faultAll?, List.any_cons, List.any_cons, fault?, fault?, ih]
  | swap x y zs =>
    rw [isSome_faultAll?, isSome_faultAll?, List.any_cons, List.any_cons, List.any_cons,
      List.any_cons, Bool.or_left_comm]
  | trans _ _ ih ih' => exact ih.trans ih'

/-! ## Verdicts -/

/-- What is due, by path and **verdict**. -/
def judged (d : Disk) (xs : List Due) : List (Path × Verdict) := xs.map fun y => (y.path, y.verdict d)

@[simp] theorem judged_append (d : Disk) (xs ys : List Due) :
    judged d (xs ++ ys) = judged d xs ++ judged d ys := List.map_append

/-- Whether all is sound is told by the **verdicts**. -/
theorem allSound_eq_judged (d : Disk) (xs : List Due) :
    Due.allSound d xs = (judged d xs).all fun y => y.2 = .sound := by
  rw [Due.allSound_eq_all, judged, List.all_map]
  congr 1
  funext y
  rw [Bool.eq_iff_iff, ← Due.verdict_eq_sound]
  simp

/-- The paths under a verdict are told by the **verdicts**. -/
theorem listed_eq_judged (d : Disk) (v : Verdict) (xs : List Due) :
    Due.listed d v xs = ((judged d xs).filter fun y => y.2 = v).map Prod.fst := by
  rw [Due.listed, judged, List.filter_map, List.map_map]
  rfl

/-- The verdict on a folder depends on the verdicts in it alone, **in any order**. -/
theorem verdict_folder_of_perm {below below' : List Due}
    (h : (judged d below).Perm (judged d below')) :
    (Due.folder p below).verdict d = (Due.folder p below').verdict d := by
  rw [Due.verdict, Due.verdict, Due.sound, Due.sound, allSound_eq_judged, allSound_eq_judged,
    h.all_eq]
  rfl

/-- Reordered plans come to the same verdicts on the **same paths**, in some order. -/
theorem Reordered.due_perm (h : Reordered xs ys) (d : Disk) :
    (judged d (dueAll xs)).Perm (judged d (dueAll ys)) := by
  induction h with
  | refl xs => exact List.Perm.refl _
  | cons x _ ih =>
    rw [dueAll, dueAll, judged_append, judged_append]
    exact ih.append_left _
  | inside p zs _ ih =>
    rw [dueAll, dueAll, due, due, judged_append, judged_append, judged_append, judged_append]
    refine (ih.append ?_).append_right _
    rw [judged, judged, List.map_singleton, List.map_singleton, verdict_folder_of_perm ih]
    exact List.Perm.refl _
  | swap x y zs =>
    simp only [dueAll, judged_append]
    exact List.perm_append_comm_assoc _ _ _
  | trans _ _ ih ih' => exact ih.trans ih'

/-! ## Plain names -/

/-- The plan is about a **plain name** below a path, if it is about a path. -/
def Child (p : Path) (x : Plan) : Prop :=
  ∀ q, x.path? = some q → ∃ name, Path.IsPlain name ∧ q = p.joinName name

mutual

/-- **Tidy** plans: in every folder there are plain names only, and no two the same. -/
def Tidy : Plan → Prop
  | .skip => True
  | .fault _ => True
  | .file _ _ => True
  | .folder p inside => (inside.filterMap path?).Nodup ∧ TidyAll p inside

/-- Plans below a path that are tidy, and about plain names. -/
def TidyAll (p : Path) : List Plan → Prop
  | [] => True
  | x :: xs => Child p x ∧ Tidy x ∧ TidyAll p xs

end

/-- Each of several tidy plans is about a plain name, if it is about a path. -/
theorem TidyAll.child : ∀ {xs : List Plan}, TidyAll p xs → ∀ x ∈ xs, Child p x
  | [], _ => fun _ hx => absurd hx List.not_mem_nil
  | _ :: _, ⟨hchild, _, hrest⟩ => List.forall_mem_cons.mpr ⟨hchild, hrest.child⟩

/-- Where no two plans are about one path, the first is about **another** than each behind it. -/
theorem path?_ne_of_nodup {x : Plan} (h : ((x :: xs).filterMap path?).Nodup) :
    ∀ y ∈ xs, ∀ q, x.path? = some q → y.path? ≠ some q := by
  intro y hy q hq hq'
  rw [List.filterMap_cons_some hq] at h
  exact (List.nodup_cons.mp h).1 (List.mem_filterMap.mpr ⟨y, hy, hq'⟩)

/-- Reordered plans are about the **same paths**. -/
theorem Reordered.paths_perm (h : Reordered xs ys) :
    (xs.filterMap path?).Perm (ys.filterMap path?) := by
  induction h with
  | refl xs => exact List.Perm.refl _
  | cons x _ ih =>
    rw [List.filterMap_cons, List.filterMap_cons]
    cases x.path? with
    | none => exact ih
    | some q => exact ih.cons q
  | inside p zs _ _ => exact List.Perm.refl _
  | swap x y zs => exact (List.Perm.swap y x zs).filterMap _
  | trans _ _ ih ih' => exact ih.trans ih'

/-- Reordered plans **stay tidy**. -/
theorem Reordered.tidy (h : Reordered xs ys) : ∀ {p : Path}, TidyAll p xs → TidyAll p ys := by
  induction h with
  | refl xs => exact id
  | cons x _ ih => exact fun ⟨hchild, hx, hrest⟩ => ⟨hchild, hx, ih hrest⟩
  | inside q zs hinside ih =>
    rintro p ⟨hchild, ⟨hnodup, htidy⟩, hrest⟩
    exact ⟨hchild, ⟨hinside.paths_perm.nodup_iff.mp hnodup, ih htidy⟩, hrest⟩
  | swap x y zs => exact fun ⟨hx, hx', hy, hy', hrest⟩ => ⟨hy, hy', hx, hx', hrest⟩
  | trans _ _ ih ih' => exact fun h => ih' (ih h)

/-- A folder whose plans are reordered **stays tidy**. -/
theorem Reordered.tidy_folder (h : Reordered xs ys) (hfolder : (folder p xs).Tidy) :
    (folder p ys).Tidy :=
  ⟨h.paths_perm.nodup_iff.mp hfolder.1, h.tidy hfolder.2⟩

/-! ## Steps -/

/-- The steps of a plan that is about no path are about **none**. -/
theorem path?_of_mem_steps : ∀ {x : Plan} {s : Step}, x.path? = none → s ∈ x.steps → s.path? = none
  | .skip, s, _, hs => absurd hs List.not_mem_nil
  | .fault e, s, _, hs => by
    obtain rfl := List.mem_singleton.mp hs
    rfl

mutual

/-- The steps of a tidy plan are **below its path**. -/
theorem below_of_tidy : ∀ {x : Plan} {q : Path}, x.Tidy → x.path? = some q →
    ∀ s ∈ x.steps, s.Below q
  | .file p content, q, _, hq, s, hs => by
    obtain rfl := Option.some.inj hq
    obtain rfl := List.mem_singleton.mp hs
    exact Step.below_self rfl
  | .folder p inside, q, ⟨_, htidy⟩, hq, s, hs => by
    obtain rfl := Option.some.inj hq
    rcases List.mem_cons.mp hs with rfl | hs
    · exact Step.below_self rfl
    · exact belowAll_of_tidy htidy s hs

/-- The steps of tidy plans below a path are below it. -/
theorem belowAll_of_tidy : ∀ {xs : List Plan} {p : Path}, TidyAll p xs →
    ∀ s ∈ stepsAll xs, s.Below p
  | [], _, _, s, hs => absurd hs List.not_mem_nil
  | x :: xs, p, ⟨hchild, hx, hrest⟩, s, hs => by
    rcases List.mem_append.mp hs with hs | hs
    · intro p' hp'
      rcases hq : x.path? with _ | q
      · rw [path?_of_mem_steps hq hs] at hp'
        simp at hp'
      · obtain ⟨name, hn, rfl⟩ := hchild q hq
        obtain ⟨names, hplain, rfl⟩ := below_of_tidy hx hq s hs p' hp'
        exact ⟨name :: names, List.forall_mem_cons.mpr ⟨hn, hplain⟩, rfl⟩
    · exact belowAll_of_tidy hrest s hs

end

/-- The steps of **two tidy plans** below one path, about two names, are apart. -/
theorem apart_of_tidy {x y : Plan} (hready : d.Ready p) (hx : Child p x) (hx' : x.Tidy)
    (hy : Child p y) (hy' : y.Tidy) (hne : ∀ q, x.path? = some q → y.path? ≠ some q) :
    Step.Apart d x.steps y.steps := by
  rcases hp : x.path? with _ | q
  · intro s hs loc hloc
    obtain ⟨q, hq, -⟩ := Step.exists_path_of_mem_reads hloc
    rw [path?_of_mem_steps hp hs] at hq
    simp at hq
  rcases hp' : y.path? with _ | q'
  · exact fun s _ loc _ => Or.inr fun t ht => Step.spares_of_path? (path?_of_mem_steps hp' ht)
  obtain ⟨name, hn, rfl⟩ := hx q hp
  obtain ⟨other, hother, rfl⟩ := hy q' hp'
  refine Step.apart_of_below hready hn hother (fun heq => hne _ hp (heq ▸ hp'))
    (below_of_tidy hx' hp) (below_of_tidy hy' hp')

/-- Folders end alike if their plans do, **below the folder**. -/
theorem sameEnd_folder (h : ∀ e : Disk, e.Ready p →
    Step.SameEnd (Step.runAll e (stepsAll xs)) (Step.runAll e (stepsAll ys))) (d : Disk) :
    Step.SameEnd (Step.runAll d (folder p xs).steps) (Step.runAll d (folder p ys).steps) := by
  have hmake : Step.SameEnd (Step.runAll d [.makeDirs p]) (Step.runAll d [.makeDirs p]) :=
    Step.SameEnd.refl _
  exact hmake.append fun e he => h e (Disk.ready_of_makeDirs (Step.makeDirs_of_runAll he))

/-- **Reordered tidy plans end alike**, below a path that is ready. -/
theorem Reordered.sameEnd (h : Reordered xs ys) : ∀ {d : Disk} {p : Path}, d.Ready p →
    (xs.filterMap path?).Nodup → TidyAll p xs →
    Step.SameEnd (Step.runAll d (stepsAll xs)) (Step.runAll d (stepsAll ys)) := by
  induction h with
  | refl xs => exact fun _ _ _ => Step.SameEnd.refl _
  | cons x _ ih =>
    intro d p hready hnodup ⟨_, _, htidy⟩
    have hrest := hnodup.sublist ((List.sublist_cons_self x _).filterMap _)
    exact (Step.SameEnd.refl _).append fun e he =>
      ih (hready.of_grows (Step.grows_of_runAll he)) hrest htidy
  | inside q zs _ ih =>
    intro d p hready hnodup ⟨_, ⟨hnodup', htidy⟩, _⟩
    have hfirst := sameEnd_folder (fun e he => ih he hnodup' htidy) d
    exact hfirst.append fun e _ => Step.SameEnd.refl _
  | swap x y zs =>
    intro d p hready hnodup ⟨hx, hx', hy, hy', _⟩
    have hne := path?_ne_of_nodup hnodup y List.mem_cons_self
    have hboth := Step.runAll_swap (apart_of_tidy hready hx hx' hy hy' hne)
      (apart_of_tidy hready hy hy' hx hx' fun q hq hq' => hne q hq' hq)
    simp only [stepsAll]
    rw [← List.append_assoc, ← List.append_assoc]
    exact hboth.append fun e _ => Step.SameEnd.refl _
  | trans hxy _ ih ih' =>
    intro d p hready hnodup htidy
    exact (ih hready hnodup htidy).trans
      (ih' hready (hxy.paths_perm.nodup_iff.mp hnodup) (hxy.tidy htidy))

/-! ## Trees -/

/-- The trees of plans, **one behind the other**. -/
def treesOf (xs : List Plan) : Tree := xs.flatMap tree

/-- A tree has something only at the **path of its plan**. -/
theorem exists_path_of_get? {x : Plan} {q : Path} (h : Tree.get? x.tree q ≠ none) :
    ∃ a, x.path? = some a ∧ a.sameAs q = true := by
  rcases hp : x.path? with _ | a
  · rw [tree_of_path?_none hp] at h
    exact absurd rfl h
  · obtain ⟨e, he⟩ := tree_of_path? hp
    rw [he, Tree.get?_singleton] at h
    refine ⟨a, rfl, ?_⟩
    by_contra hnot
    exact h (if_neg hnot)

/-- Plain names below a path that lead to one place are **one path**. -/
theorem Child.eq_of_sameAs {x y : Plan} {a b : Path} (hx : Child p x) (hy : Child p y)
    (ha : x.path? = some a) (hb : y.path? = some b) (h : a.sameAs b = true) : a = b := by
  obtain ⟨name, hn, rfl⟩ := hx a ha
  obtain ⟨other, hother, rfl⟩ := hy b hb
  rw [Path.eq_of_sameAs_joinName hn hother h]

/-- Plans about different plain names have **no place in common**. -/
theorem get?_tree_eq_none {x y : Plan} (hx : Child p x) (hy : Child p y)
    (hne : ∀ q, x.path? = some q → y.path? ≠ some q) (q : Path) :
    Tree.get? x.tree q = none ∨ Tree.get? y.tree q = none := by
  by_contra hboth
  rw [not_or] at hboth
  obtain ⟨a, ha, haq⟩ := exists_path_of_get? hboth.1
  obtain ⟨b, hb, hbq⟩ := exists_path_of_get? hboth.2
  have heq := hx.eq_of_sameAs hy ha hb (Path.sameAs_trans haq (Path.sameAs_symm hbq))
  exact hne a ha (heq ▸ hb)

/-- A tree is **added at the end** of one that has nothing at its path. -/
theorem extend_tree {x : Plan} {acc : Tree} (h : ∀ q, x.path? = some q → Tree.get? acc q = none) :
    acc.extend x.tree = acc ++ x.tree := by
  rcases hp : x.path? with _ | q
  · rw [tree_of_path?_none hp, List.append_nil]
    rfl
  · obtain ⟨e, he⟩ := tree_of_path? hp
    rw [he]
    exact Tree.insert_of_get?_eq_none (h q hp)

/-- Trees of tidy plans are added **one behind the other**. -/
theorem treeAll_eq_append : ∀ {xs : List Plan} {acc : Tree}, TidyAll p xs →
    (xs.filterMap path?).Nodup → (∀ q ∈ xs.filterMap path?, Tree.get? acc q = none) →
    treeAll acc xs = acc ++ treesOf xs
  | [], acc, _, _, _ => by rw [treeAll, treesOf, List.flatMap_nil, List.append_nil]
  | x :: xs, acc, ⟨hchild, _, hrest⟩, hnodup, hnew => by
    have hsub := (List.sublist_cons_self x xs).filterMap path?
    have hfirst : acc.extend x.tree = acc ++ x.tree := extend_tree fun q hq => hnew q (by
      rw [List.filterMap_cons_some hq]
      exact List.mem_cons_self)
    rw [treeAll, hfirst, treeAll_eq_append hrest (hnodup.sublist hsub), treesOf, treesOf,
      List.flatMap_cons, List.append_assoc]
    intro q hq
    rw [Tree.get?_append, hnew q (hsub.subset hq), Option.none_or]
    -- What is added behind is about other paths.
    by_contra hthere
    obtain ⟨a, ha, haq⟩ := exists_path_of_get? hthere
    obtain ⟨y, hy, hyq⟩ := List.mem_filterMap.mp hq
    have heq := hchild.eq_of_sameAs (hrest.child y hy) ha hyq haq
    exact path?_ne_of_nodup hnodup y hy a ha (heq ▸ hyq)

/-- The tree of a **tidy folder** holds the trees of its plans. -/
theorem tree_folder (h : (folder p xs).Tidy) : (folder p xs).tree = [(p, .folder (treesOf xs))] := by
  rw [tree, treeAll_eq_append h.2 h.1 fun _ _ => rfl, List.nil_append]

/-- **Reordered tidy plans** have trees equal as maps. -/
theorem Reordered.sameMap (h : Reordered xs ys) : ∀ {p : Path},
    (xs.filterMap path?).Nodup → TidyAll p xs → Tree.SameMap (treesOf xs) (treesOf ys) := by
  induction h with
  | refl xs => exact fun _ _ => Tree.SameMap.refl _
  | cons x _ ih =>
    intro p hnodup ⟨_, _, htidy⟩
    have hrest := hnodup.sublist ((List.sublist_cons_self x _).filterMap _)
    exact (Tree.SameMap.refl _).append (ih hrest htidy)
  | inside q zs hinside ih =>
    intro p _ ⟨_, hfolder, _⟩
    rw [treesOf, treesOf, List.flatMap_cons, List.flatMap_cons, tree_folder hfolder,
      tree_folder (hinside.tidy_folder hfolder)]
    have hsame := Tree.SameRendered.folder (ih hfolder.1 hfolder.2)
    exact (hsame.singleton q).append (Tree.SameMap.refl _)
  | swap x y zs =>
    intro p hnodup ⟨hx, _, hy, _, _⟩
    simp only [treesOf, List.flatMap_cons]
    rw [← List.append_assoc, ← List.append_assoc]
    have hne := path?_ne_of_nodup hnodup y List.mem_cons_self
    exact (Tree.SameMap.append_comm (get?_tree_eq_none hx hy hne)).append (Tree.SameMap.refl _)
  | trans hxy _ ih ih' =>
    intro p hnodup htidy
    exact (ih hnodup htidy).trans (ih' (hxy.paths_perm.nodup_iff.mp hnodup) (hxy.tidy htidy))

end Plan

/-- Reports that list the **same paths** under each verdict, in whatever order. -/
structure Report.Perm (x y : Report) : Prop where
  missing : x.missing.Perm y.missing
  errors : x.errors.Perm y.errors
  ok : x.ok.Perm y.ok

/-- Where the same paths come under the same verdicts, **reports** list the same paths. -/
theorem Due.report_perm {d : Disk} {xs ys : List Due}
    (h : (Plan.judged d xs).Perm (Plan.judged d ys)) : (report d xs).Perm (report d ys) := by
  have hlisted : ∀ v, (listed d v xs).Perm (listed d v ys) := fun v => by
    rw [Plan.listed_eq_judged, Plan.listed_eq_judged]
    exact (h.filter _).map _
  exact ⟨hlisted .missing, hlisted .differs, hlisted .sound⟩

/-- Answers that are related are **together** where their failures are. -/
theorem Plan.together_answer {α : Type} {related : α → α → Prop} {fault fault' : Option Error}
    {a b : α} (h : fault.isSome = fault'.isSome) (hab : related a b) :
    Together related (answer fault a) (answer fault' b) := by
  cases fault <;> cases fault'
  · exact .answered hab
  · simp at h
  · simp at h
  · exact .failed _ _

/-- Runs that end alike **answer together**. -/
theorem Step.SameEnd.together {α : Type} {related : α → α → Prop} {x y : Disk × Except Error Unit}
    {a b : α} (h : SameEnd x y) (hab : related a b) :
    Together (fun a b => related a b ∧ x.1.Alike y.1) (x.2.map fun _ => a) (y.2.map fun _ => b) := by
  obtain ⟨dx, x⟩ := x
  obtain ⟨dy, y⟩ := y
  cases h with
  | failed f g => exact .failed f g
  | answered halike => exact .answered ⟨hab, halike⟩

/-! ## Reordered nodes -/

namespace Node

/-- Nodes that come from others by **reordering** them, or the children of one of them. -/
inductive ReorderedAll : List Node → List Node → Prop where
  | refl (ns : List Node) : ReorderedAll ns ns
  | cons (n : Node) {ns ms : List Node} (h : ReorderedAll ns ms) : ReorderedAll (n :: ns) (n :: ms)
  | inside (id : Option String) (name : Name) {ns ms : List Node} (ks : List Node)
      (h : ReorderedAll ns ms) : ReorderedAll (.folder id name ns :: ks) (.folder id name ms :: ks)
  | swap (n m : Node) (ks : List Node) : ReorderedAll (n :: m :: ks) (m :: n :: ks)
  | trans {ns ms ks : List Node} (h : ReorderedAll ns ms) (h' : ReorderedAll ms ks) :
      ReorderedAll ns ks

/-- A node with its children, at any depth, **reordered**. -/
inductive Reordered : Node → Node → Prop where
  | refl (n : Node) : Reordered n n
  | folder (id : Option String) (name : Name) {ns ms : List Node} (h : ReorderedAll ns ms) :
      Reordered (.folder id name ns) (.folder id name ms)

/-- Every **permutation** of children reorders them. -/
theorem reorderedAll_of_perm {ns ms : List Node} (h : ns.Perm ms) : ReorderedAll ns ms := by
  induction h with
  | nil => exact .refl []
  | cons n _ ih => exact .cons n ih
  | swap n m ks => exact .swap m n ks
  | trans _ _ ih ih' => exact .trans ih ih'

variable {r : Renderer} {context : Context} {override : Option Path} {base : Path} {d : Disk}

/-- Reordered nodes come to **reordered plans**. -/
theorem ReorderedAll.plan {ns ms : List Node} (h : ReorderedAll ns ms) : ∀ {base : Path},
    Plan.Reordered (planAll r d context base ns) (planAll r d context base ms) := by
  induction h with
  | refl ns => exact .refl _
  | cons n _ ih => exact .cons _ ih
  | inside id name ks _ ih =>
    intro base
    rw [planAll, planAll, Node.plan, Node.plan]
    split
    · exact .refl _
    · exact .refl _
    · exact .inside _ _ ih
  | swap n m ks => exact .swap _ _ _
  | trans _ _ ih ih' => exact ih.trans ih'

/-- A node with its children reordered comes to the same, or to **one folder** whose plans are
reordered. -/
theorem Reordered.plan_cases {n m : Node} (h : Reordered n m) :
    Node.plan r d context override base m = Node.plan r d context override base n ∨
      ∃ p xs ys, Node.plan r d context override base n = .folder p xs ∧
        Node.plan r d context override base m = .folder p ys ∧ Plan.Reordered xs ys := by
  cases h with
  | refl n => exact Or.inl rfl
  | folder id name h =>
    rw [Node.plan, Node.plan]
    rcases path r d context override base name with e | _ | p
    · exact Or.inl rfl
    · exact Or.inl rfl
    · exact Or.inr ⟨p, _, _, rfl, rfl, h.plan⟩

/-! ## Writing, previewing and comparing in any order -/

section

variable {n m : Node}

/-- A tidy node with its children reordered **ends alike**. -/
theorem Reordered.sameEnd (h : Reordered n m)
    (htidy : (Node.plan r d context override base n).Tidy) :
    Step.SameEnd (Step.runAll d (Node.plan r d context override base n).steps)
      (Step.runAll d (Node.plan r d context override base m).steps) := by
  rcases @h.plan_cases r context override base d with hsame | ⟨p, xs, ys, hn, hm, hplans⟩
  · rw [hsame]
    exact Step.SameEnd.refl _
  · rw [hn] at htidy ⊢
    rw [hm]
    exact Plan.sameEnd_folder (fun e he => hplans.sameEnd he htidy.1 htidy.2) d

/-- A tidy node with its children reordered comes to a **tree equal as a map**. -/
theorem Reordered.sameMap (h : Reordered n m)
    (htidy : (Node.plan r d context override base n).Tidy) :
    Tree.SameMap (Node.plan r d context override base n).tree
      (Node.plan r d context override base m).tree := by
  rcases @h.plan_cases r context override base d with hsame | ⟨p, xs, ys, hn, hm, hplans⟩
  · rw [hsame]
    exact Tree.SameMap.refl _
  · rw [hn] at htidy ⊢
    rw [hm, Plan.tree_folder htidy, Plan.tree_folder (hplans.tidy_folder htidy)]
    exact (Tree.SameRendered.folder (hplans.sameMap htidy.1 htidy.2)).singleton p

/-- A node with its children reordered **fails together** with it. -/
theorem Reordered.fault (h : Reordered n m) :
    (Node.plan r d context override base n).fault?.isSome =
      (Node.plan r d context override base m).fault?.isSome := by
  rcases @h.plan_cases r context override base d with hsame | ⟨p, xs, ys, hn, hm, hplans⟩
  · rw [hsame]
  · rw [hn, hm]
    exact hplans.fault

/-- A node with its children reordered has the **same verdicts** on the same paths. -/
theorem Reordered.due_perm (h : Reordered n m) :
    (Plan.judged d (Node.plan r d context override base n).due).Perm
      (Plan.judged d (Node.plan r d context override base m).due) := by
  rcases @h.plan_cases r context override base d with hsame | ⟨p, xs, ys, hn, hm, hplans⟩
  · rw [hsame]
  · have hfolders := (Plan.Reordered.inside p [] hplans).due_perm d
    simp only [Plan.dueAll, List.append_nil] at hfolders
    rw [hn, hm]
    exact hfolders

end

/-- **The order of children matters for display only.**  Where a node is tidy, and rendering is
independent of what is written, in the one order and in the other, writing it with its children
reordered, at any depth, fails together with writing it, or leaves a disk that holds the same and
answers a tree that is equal as a map; so does a preview.  A comparison with any disk fails
together, or lists the same paths under each verdict. -/
theorem materialize_reordered {n m : Node} (horder : Reordered n m)
    (hind : Independent r context override base d n)
    (hind' : Independent r context override base d m)
    (htidy : (plan r d context override base n).Tidy) :
    Together (fun t u => Tree.SameMap t u ∧ (materialize r context override base d n).1.Alike
        (materialize r context override base d m).1)
      (materialize r context override base d n).2 (materialize r context override base d m).2 ∧
    Together Tree.SameMap (preview r d context override base n)
      (preview r d context override base m) ∧
    ∀ f : Disk, Together Report.Perm (verify r f context override base n)
      (verify r f context override base m) := by
  refine ⟨?_, ?_, fun f => ?_⟩
  · rw [materialize_eq_steps n hind.steady, materialize_eq_steps m hind'.steady]
    exact (horder.sameEnd htidy).together (horder.sameMap htidy)
  · rw [preview_eq_plan, preview_eq_plan]
    exact Plan.together_answer horder.fault (horder.sameMap htidy)
  · rw [verify_eq_plan, verify_eq_plan]
    exact Plan.together_answer horder.fault (Due.report_perm horder.due_perm)

/-- A folder with **a file and a folder** in it. -/
def manual : Node :=
  .folder none (.literal "docs") [.file none (.literal "a") (.text "x"),
    .folder none (.literal "b") [.file none (.literal "a") (.text "y")]]

/-- The sample with the folder first. -/
def manualSwapped : Node :=
  .folder none (.literal "docs") [.folder none (.literal "b") [.file none (.literal "a") (.text "y")],
    .file none (.literal "a") (.text "x")]

/-- The sample is **tidy**. -/
theorem tidy_manual : (plan bareRenderer (Disk.bare ["w"]) [] none ⟨"out"⟩ manual).Tidy := by
  have hplan : plan bareRenderer (Disk.bare ["w"]) [] none ⟨"out"⟩ manual = .folder ⟨"out/docs"⟩
      [.file ⟨"out/docs/a"⟩ (.text "x"),
        .folder ⟨"out/docs/b"⟩ [.file ⟨"out/docs/b/a"⟩ (.text "y")]] := rfl
  have ha : Path.IsPlain "a" := ⟨by decide, by decide, by decide, by decide⟩
  have hb : Path.IsPlain "b" := ⟨by decide, by decide, by decide, by decide⟩
  rw [hplan]
  refine ⟨by decide, fun q hq => ⟨"a", ha, (Option.some.inj hq).symm⟩, trivial,
    fun q hq => ⟨"b", hb, (Option.some.inj hq).symm⟩, ⟨by decide, ?_, trivial, trivial⟩, trivial⟩
  exact fun q hq => ⟨"a", ha, (Option.some.inj hq).symm⟩

/-- The sample is **written alike** with its children in either order, and compares alike. -/
theorem materialize_reordered_manual : ∃ t u report report',
    (materialize bareRenderer [] none ⟨"out"⟩ (Disk.bare ["w"]) manual).2 = .ok t ∧
    (materialize bareRenderer [] none ⟨"out"⟩ (Disk.bare ["w"]) manualSwapped).2 = .ok u ∧
    Tree.SameMap t u ∧ (materialize bareRenderer [] none ⟨"out"⟩ (Disk.bare ["w"]) manual).1.Alike
      (materialize bareRenderer [] none ⟨"out"⟩ (Disk.bare ["w"]) manualSwapped).1 ∧
    verify bareRenderer documented [] none ⟨"out"⟩ manual = .ok report ∧
    verify bareRenderer documented [] none ⟨"out"⟩ manualSwapped = .ok report' ∧
    report.Perm report' := by
  have hind : ∀ n, n.readPaths = [] → Independent bareRenderer [] none ⟨"out"⟩ (Disk.bare ["w"]) n :=
    fun n hn => independent_of_embedded isEmbedded_bareRenderer fun p hp =>
      absurd (hn ▸ hp) List.not_mem_nil
  have horder : Reordered manual manualSwapped :=
    .folder none _ (reorderedAll_of_perm (List.Perm.swap _ _ _))
  obtain ⟨hwrite, -, hverify⟩ :=
    materialize_reordered horder (hind manual rfl) (hind manualSwapped rfl) tidy_manual
  have hok : (materialize bareRenderer [] none ⟨"out"⟩ (Disk.bare ["w"]) manual).2.isOk = true := by
    decide +kernel
  have hcompared : (verify bareRenderer documented [] none ⟨"out"⟩ manual).isOk = true := by
    decide +kernel
  obtain ⟨t, u, ht, hu, hsame⟩ := hwrite.of_isOk hok
  obtain ⟨report, report', hreport, hreport', hperm⟩ := (hverify documented).of_isOk hcompared
  exact ⟨t, u, report, report', ht, hu, hsame.1, hsame.2, hreport, hreport', hperm⟩

end Node

end Scaffold
