import Scaffold.Proofs.Node.Found
import Scaffold.Proofs.Node.Inside
import Scaffold.Proofs.Node.Reordered

/-!
# Proofs/Node/Listing — the files of a layout, in order

Where no two plans of a level are about one place (`Plan.Apart`), nothing in their tree is replaced, and
its files are those of the plans, in order (`Plan.files_treeAll`).  Names that are written out, plain
and different among siblings keep plans apart (`Node.apart_of_isSpread`), and then the files are listed
from the layout alone, if every source comes to a content (`Node.files_of_isSpread`).
-/

namespace Scaffold

namespace Plan

/-- The files of plans behind others are **behind the files of the others**. -/
theorem filesAll_append : ∀ xs ys : List Plan, filesAll (xs ++ ys) = filesAll xs ++ filesAll ys
  | [], _ => rfl
  | x :: xs, ys => by
    rw [List.cons_append, filesAll_cons, filesAll_cons, filesAll_append xs ys, List.append_assoc]

/-- The files of plans are the files of **each of them**. -/
theorem mem_filesAll {f : Path × Content} {xs : List Plan} :
    f ∈ filesAll xs ↔ ∃ x ∈ xs, f ∈ x.files := by
  induction xs with
  | nil => simp [filesAll, dueAll]
  | cons x xs ih => simp [ih]

/-- Two plans are about **different places**, if they are about any. -/
def Elsewhere (x y : Plan) : Prop :=
  ∀ p q, x.path? = some p → y.path? = some q → p.sameAs q = false

mutual

/-- Plans that stand **apart**: on no level are two of them about one place. -/
def Apart : Plan → Prop
  | .skip => True
  | .fault _ => True
  | .file _ _ => True
  | .folder _ inside => ApartAll inside

/-- Plans beside each other that stand apart. -/
def ApartAll : List Plan → Prop
  | [] => True
  | x :: xs => Apart x ∧ (∀ y ∈ xs, Elsewhere x y) ∧ ApartAll xs

end

/-- Plans stand apart if **each** does, and any two are about different places. -/
theorem apartAll_iff {xs : List Plan} :
    ApartAll xs ↔ (∀ x ∈ xs, x.Apart) ∧ xs.Pairwise Elsewhere := by
  induction xs with
  | nil => simp [ApartAll]
  | cons x xs ih =>
    rw [ApartAll, ih, List.forall_mem_cons, List.pairwise_cons]
    constructor
    · rintro ⟨hx, hother, hall, hpairs⟩
      exact ⟨⟨hx, hall⟩, hother, hpairs⟩
    · rintro ⟨⟨hx, hall⟩, hother, hpairs⟩
      exact ⟨hx, hother, hall, hpairs⟩

mutual

/-- **The files of a tree** are those of its plan. -/
theorem files_tree : ∀ {x : Plan}, x.Apart → Tree.files x.tree = x.files
  | .skip, _ => rfl
  | .fault _, _ => rfl
  | .file _ _, _ => rfl
  | .folder p inside, h => by
    have hinside : Tree.files (treeAll [] inside) = filesAll inside :=
      files_treeAll h fun _ _ _ _ => rfl
    rw [files_folder, tree, Tree.files, Tree.filesIn, hinside, Tree.files, List.append_nil]

/-- **The files of trees** that are added up are those of their plans, in order. -/
theorem files_treeAll : ∀ {xs : List Plan} {acc : Tree}, ApartAll xs →
    (∀ x ∈ xs, ∀ q, x.path? = some q → Tree.get? acc q = none) →
      Tree.files (treeAll acc xs) = Tree.files acc ++ filesAll xs
  | [], acc, _, _ => (List.append_nil _).symm
  | x :: xs, acc, ⟨hx, hother, hxs⟩, hnew => by
    rw [List.forall_mem_cons] at hnew
    have hnone : ∀ y ∈ xs, ∀ q, y.path? = some q → Tree.get? (acc ++ x.tree) q = none := by
      intro y hy q hq
      rw [Tree.get?_append, hnew.2 y hy q hq, Option.none_or]
      by_contra hthere
      obtain ⟨p, hp, hsame⟩ := exists_path_of_get? hthere
      rw [hother y hy p q hp hq] at hsame
      exact Bool.false_ne_true hsame
    rw [treeAll, extend_tree hnew.1, files_treeAll hxs hnone, Tree.files_append, files_tree hx,
      filesAll_cons, List.append_assoc]

end

end Plan

/-! ## Layouts with names that are written out -/

/-- A plain name is **written out**. -/
theorem Name.exists_of_isPlain {name : Name} (h : name.isPlain = true) : ∃ s, name = .literal s := by
  cases name with
  | literal s => exact ⟨s, rfl⟩
  | template text => simp [isPlain] at h
  | computed f => simp [isPlain] at h

namespace Node

/-- The names of nodes are those of **each of them**. -/
theorem namesAll_eq_flatMap (ns : List Node) : namesAll ns = ns.flatMap names := by
  induction ns with
  | nil => rfl
  | cons n ns ih => rw [namesAll, ih, List.flatMap_cons]

/-- The sources of nodes are those of **each of them**. -/
theorem sourcesAll_eq_flatMap (ns : List Node) : sourcesAll ns = ns.flatMap sources := by
  induction ns with
  | nil => rfl
  | cons n ns ih => rw [sourcesAll, ih, List.flatMap_cons]

/-- Names beside each other that are written out, plain and **different**. -/
def spreadNames (ns : List Node) : Bool :=
  ns.all (·.name.isPlain) && decide (ns.map (·.name.static?)).Nodup

mutual

/-- Whether on every level names are written out, plain and **different**. -/
def isSpread : Node → Bool
  | .file _ name _ => name.isPlain
  | .folder _ name contents => name.isPlain && spreadNames contents && areSpread contents

/-- Whether all nodes are. -/
def areSpread : List Node → Bool
  | [] => true
  | n :: ns => isSpread n && areSpread ns

end

variable {r : Renderer} {d : Disk} {context : Context} {base : Path}

/-- The files that nodes come to are the files that **each of them** comes to. -/
theorem mem_files_planAll {f : Path × Content} {ns : List Node} :
    f ∈ Plan.filesAll (planAll r d context base ns) ↔
      ∃ n ∈ ns, f ∈ (n.plan r d context none base).files := by
  simp only [Plan.mem_filesAll, planAll_eq_map, List.mem_map, exists_exists_and_eq_and]

/-- A file whose name is written out comes to a file **at that name**, with the content of its source, if
that has one. -/
theorem mem_files_file {id : Option String} {text : String} {source : Source} {f : Path × Content} :
    f ∈ ((file id (.literal text) source).plan r d context none base).files ↔
      f.1 = base.joinName text ∧ source.render r d context = .ok (some f.2) := by
  have hpath : path r d context none base (.literal text) = .ok (some (base.joinName text)) := rfl
  rw [plan, renderedFile, hpath]
  rcases source.render r d context with e | _ | content <;>
    simp [Except.map, Plan.files, Plan.due, Due.file?, Prod.ext_iff, eq_comm]

/-- A folder whose name is written out comes to the files that **each node in it** comes to. -/
theorem mem_files_folder {id : Option String} {text : String} {ns : List Node} {f : Path × Content} :
    f ∈ ((folder id (.literal text) ns).plan r d context none base).files ↔
      ∃ n ∈ ns, f ∈ (n.plan r d context none (base.joinName text)).files := by
  have hpath : path r d context none base (.literal text) = .ok (some (base.joinName text)) := rfl
  rw [plan, hpath]
  simp only [Plan.files_folder, mem_files_planAll]

/-- Nodes whose names come to different plain texts come to plans about **different places**. -/
theorem elsewhere_of_names {n m : Node} (h : ∀ s t, n.name.resolve r d context = .ok (some s) →
    m.name.resolve r d context = .ok (some t) → Path.IsPlain s ∧ Path.IsPlain t ∧ s ≠ t) :
    (n.plan r d context none base).Elsewhere (m.plan r d context none base) := by
  intro p q hp hq
  obtain ⟨s, hs, rfl⟩ := path_eq_ok (path_of_plan hp)
  obtain ⟨t, ht, rfl⟩ := path_eq_ok (path_of_plan hq)
  obtain ⟨hplain, hplain', hne⟩ := h s t hs ht
  rw [Bool.eq_false_iff]
  exact fun hsame => hne (Path.eq_of_sameAs_joinName hplain hplain' hsame)

/-- Names that are spread are **plain**. -/
theorem isPlain_of_spreadNames {ns : List Node} (h : spreadNames ns = true) :
    ∀ n ∈ ns, n.name.isPlain = true := by
  rw [spreadNames, Bool.and_eq_true, List.all_eq_true] at h
  exact h.1

/-- A file stands **apart** by itself. -/
theorem apart_file {id : Option String} {name : Name} {source : Source} {override : Option Path} :
    ((file id name source).plan r d context override base).Apart := by
  rw [plan]
  split <;> trivial

/-- Names that are spread keep plans **apart**, if each of them stands apart inside. -/
theorem apartAll_of_spreadNames {ns : List Node} (hnames : spreadNames ns = true)
    (h : ∀ n ∈ ns, (n.plan r d context none base).Apart) :
    Plan.ApartAll (planAll r d context base ns) := by
  have hplain := isPlain_of_spreadNames hnames
  rw [spreadNames, Bool.and_eq_true, decide_eq_true_eq] at hnames
  rw [planAll_eq_map, Plan.apartAll_iff, List.forall_mem_map, List.pairwise_map]
  refine ⟨h, (List.pairwise_map.mp hnames.2).imp_of_mem fun hn hm hne => ?_⟩
  refine elsewhere_of_names fun s t hs ht => ⟨Name.isPlain_of_resolve (hplain _ hn) s hs,
    Name.isPlain_of_resolve (hplain _ hm) t ht, ?_⟩
  rintro rfl
  exact hne ((Name.static?_of_resolve (hplain _ hn) hs).trans
    (Name.static?_of_resolve (hplain _ hm) ht).symm)

mutual

/-- The names of a layout that is spread **resolve**. -/
theorem isOk_names_of_isSpread : ∀ {n : Node}, n.isSpread = true →
    ∀ x ∈ n.names, (x.resolve r d context).isOk = true
  | .file id name source, h, x, hx => by
    obtain rfl := List.mem_singleton.mp hx
    obtain ⟨s, rfl⟩ := Name.exists_of_isPlain h
    rfl
  | .folder id name contents, h, x, hx => by
    rw [isSpread, Bool.and_eq_true, Bool.and_eq_true] at h
    rcases List.mem_cons.mp hx with rfl | hx
    · obtain ⟨s, rfl⟩ := Name.exists_of_isPlain h.1.1
      rfl
    · exact isOk_names_of_areSpread h.2 x hx

/-- The names of nodes that are spread **resolve**. -/
theorem isOk_names_of_areSpread : ∀ {ns : List Node}, areSpread ns = true →
    ∀ x ∈ namesAll ns, (x.resolve r d context).isOk = true
  | n :: ns, h, x, hx => by
    rw [areSpread, Bool.and_eq_true] at h
    rcases List.mem_append.mp hx with hx | hx
    · exact isOk_names_of_isSpread h.1 x hx
    · exact isOk_names_of_areSpread h.2 x hx

end

mutual

/-- **A layout that is spread** comes to plans that stand apart. -/
theorem apart_of_isSpread : ∀ {n : Node} {base : Path}, n.isSpread = true →
    (n.plan r d context none base).Apart
  | .file _ _ _, _, _ => apart_file
  | .folder id name contents, base, h => by
    rw [isSpread, Bool.and_eq_true, Bool.and_eq_true] at h
    rw [plan]
    split
    · trivial
    · trivial
    · exact apartAll_of_spreadNames h.1.2 (apart_of_areSpread h.2)

/-- Each node of a layout that is spread comes to plans that stand apart. -/
theorem apart_of_areSpread : ∀ {ns : List Node} {base : Path}, areSpread ns = true →
    ∀ n ∈ ns, (n.plan r d context none base).Apart
  | [], _, _ => fun _ hn => absurd hn List.not_mem_nil
  | n :: ns, base, h => by
    rw [areSpread, Bool.and_eq_true] at h
    exact List.forall_mem_cons.mpr ⟨apart_of_isSpread h.1, apart_of_areSpread h.2⟩

end

/-! ## The list of files -/

mutual

/-- The files of a node by the **names that lead to them**, where names are written out. -/
def listing : Node → List (List String)
  | .file _ name _ => (name.static?.map fun s => [s]).toList
  | .folder _ name contents =>
    (name.static?.map fun s => (listingAll contents).map (s :: ·)).getD []

/-- The files of nodes by the names that lead to them. -/
def listingAll : List Node → List (List String)
  | [] => []
  | n :: ns => listing n ++ listingAll ns

end

mutual

/-- **The files** of a layout that is spread are those it lists, if every source comes to a content. -/
theorem files_of_isSpread : ∀ {n : Node} {base : Path}, n.isSpread = true →
    (∀ x ∈ n.sources, ∃ content, x.render r d context = .ok (some content)) →
      (n.plan r d context none base).files.map Prod.fst = n.listing.map base.joinAll
  | .file id name source, base, h, hsources => by
    obtain ⟨s, rfl⟩ := Name.exists_of_isPlain h
    obtain ⟨content, hcontent⟩ := hsources source List.mem_cons_self
    have hfile : renderedFile r d context none base (.literal s) source =
        .ok (some (base.joinName s, content)) := by
      rw [renderedFile, hcontent]
      rfl
    rw [plan, hfile]
    rfl
  | .folder id name contents, base, h, hsources => by
    rw [isSpread, Bool.and_eq_true, Bool.and_eq_true] at h
    obtain ⟨s, rfl⟩ := Name.exists_of_isPlain h.1.1
    have hpath : path r d context none base (.literal s) = .ok (some (base.joinName s)) := rfl
    have hinside := filesAll_of_areSpread (base.joinName s) h.2 hsources
    rw [plan, hpath]
    simp only [Plan.files_folder, hinside, listing, Name.static?, Option.map_some,
      Option.getD_some, List.map_map]
    rfl

/-- The files of nodes that are spread are those they list. -/
theorem filesAll_of_areSpread : ∀ {ns : List Node} (base : Path), areSpread ns = true →
    (∀ x ∈ sourcesAll ns, ∃ content, x.render r d context = .ok (some content)) →
      (Plan.filesAll (planAll r d context base ns)).map Prod.fst = (listingAll ns).map base.joinAll
  | [], _, _, _ => rfl
  | n :: ns, base, h, hsources => by
    rw [areSpread, Bool.and_eq_true] at h
    rw [sourcesAll, List.forall_mem_append] at hsources
    rw [planAll, Plan.filesAll_cons, List.map_append, files_of_isSpread h.1 hsources.1,
      filesAll_of_areSpread base h.2 hsources.2, listingAll, List.map_append]

end

end Node

end Scaffold
