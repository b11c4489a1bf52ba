import Scaffold.Proofs.Node.Inside
import Scaffold.Proofs.Node.Repeated

/-!
# Proofs/Node/Lasting — the files that a tree still lists

A tree holds every place once, so of several siblings at one place it keeps what the last of them
comes to (`Plan.get?_treeAll`).  The files that are **lasting** are those for which neither the file
nor a folder around it is followed by a sibling at the same place; up to how they are spelled, the
tree lists these and no others (`Plan.lists_tree_iff`).  Of two files at one place the path stays, and a
file and a folder are never written to one place, so what a tree loses is in a folder that is followed
by a second one at its place (`Plan.exists_lasting`).  Where there is no such folder, every file that
was written is listed (`Node.materialize_lists`).
-/

namespace Scaffold

/-! ## Listed files -/

namespace Tree

variable {t u : Tree} {p q : Path} {e : Rendered}

/-- The tree **lists** a path: one of its files leads to the same place. -/
def Lists (t : Tree) (p : Path) : Prop := ∃ q ∈ filePaths t, q.sameAs p = true

/-- What is looked up **depends on the place** alone. -/
theorem get?_congr (h : p.sameAs q = true) : ∀ t : Tree, get? t p = get? t q
  | [] => rfl
  | (a, e) :: t => by
    rw [get?, get?, get?_congr h t, Path.sameAs_congr_right h]

/-- An entry is found at **its own place** after it was added, and all others where they were. -/
theorem get?_insert (t : Tree) (p : Path) (e : Rendered) (q : Path) :
    get? (insert t p e) q = if p.sameAs q then some e else get? t q := by
  split
  · next h => rw [← get?_congr h, get?_insert_self]
  · next h => rw [get?_insert_of_not_sameAs (Bool.not_eq_true _ ▸ h)]

/-- Every place is in the tree **once**. -/
def Distinct (t : Tree) : Prop := t.Pairwise fun a b => a.1.sameAs b.1 = false

/-- The paths on the level of a tree, after an entry was added, are its own and **the new one**. -/
theorem mem_insert {a : Path × Rendered} : ∀ {t : Tree}, a ∈ insert t p e →
    a.1 = p ∨ ∃ b ∈ t, b.1 = a.1
  | [], h => Or.inl (congrArg Prod.fst (List.mem_singleton.mp h))
  | (q, old) :: t, h => by
    rw [insert] at h
    split at h
    · rcases List.mem_cons.mp h with rfl | h
      · exact Or.inr ⟨(q, old), List.mem_cons_self, rfl⟩
      · exact Or.inr ⟨a, List.mem_cons_of_mem _ h, rfl⟩
    · rcases List.mem_cons.mp h with rfl | h
      · exact Or.inr ⟨_, List.mem_cons_self, rfl⟩
      · exact (mem_insert h).imp_right fun h =>
          h.imp fun b hb => hb.imp_left (List.mem_cons_of_mem _)

/-- **Adding an entry** keeps every place in the tree once. -/
theorem Distinct.insert (p : Path) (e : Rendered) : ∀ {t : Tree}, Distinct t →
    Distinct (Tree.insert t p e)
  | [], _ => List.pairwise_singleton _ _
  | (q, old) :: t, h => by
    obtain ⟨hq, ht⟩ := List.pairwise_cons.mp h
    rw [Tree.insert]
    split
    · exact List.pairwise_cons.mpr ⟨hq, ht⟩
    · next hne =>
      refine List.pairwise_cons.mpr ⟨fun a ha => ?_, Distinct.insert p e ht⟩
      rcases mem_insert ha with hp | ⟨b, hb, hsame⟩
      · rwa [hp, ← Bool.not_eq_true]
      · rw [← hsame, hq b hb]

/-- Files are listed by the entries **on the level** of the tree. -/
theorem mem_filePaths : ∀ {t : Tree}, q ∈ filePaths t ↔ ∃ a ∈ t, q ∈ pathsIn a.1 a.2
  | [] => by simp [filePaths]
  | (p, e) :: t => by rw [filePaths, List.mem_append, mem_filePaths, List.exists_mem_cons_iff]

/-- What is looked up is **in the tree**, under a path to the same place. -/
theorem mem_of_get? : ∀ {t : Tree}, get? t p = some e → ∃ q, (q, e) ∈ t ∧ q.sameAs p = true
  | (a, x) :: t, h => by
    rw [get?] at h
    split at h
    · next hsame => exact ⟨a, by rw [Option.some.inj h]; exact List.mem_cons_self, hsame⟩
    · exact (mem_of_get? h).imp fun q hq => hq.imp_left (List.mem_cons_of_mem _)

/-- Where every place is in the tree once, an entry is **found at its path**. -/
theorem get?_of_mem : ∀ {t : Tree}, Distinct t → (p, e) ∈ t → get? t p = some e
  | (a, x) :: t, h, hmem => by
    obtain ⟨ha, ht⟩ := List.pairwise_cons.mp h
    rw [get?]
    rcases List.mem_cons.mp hmem with heq | hmem
    · obtain ⟨rfl, rfl⟩ := Prod.mk.inj heq
      rw [if_pos (Path.sameAs_refl p)]
    · rw [if_neg (by simp [ha _ hmem]), get?_of_mem ht hmem]

/-- An entry lists the same under every path **to its place**. -/
theorem exists_pathsIn_congr {a b : Path} (h : a.sameAs b = true) (e : Rendered) (p : Path) :
    (∃ q ∈ pathsIn a e, q.sameAs p = true) ↔ ∃ q ∈ pathsIn b e, q.sameAs p = true := by
  cases e with
  | file content =>
    simp only [pathsIn, List.mem_singleton, exists_eq_left, Path.sameAs_iff, Path.sameAs_iff.mp h]
  | folder children => exact Iff.rfl

/-- A tree with one entry lists **what the entry lists**. -/
theorem lists_singleton : Lists [(q, e)] p ↔ ∃ a ∈ pathsIn q e, a.sameAs p = true := by
  rw [Lists, filePaths, filePaths, List.append_nil]

/-- What the tree lists at the place of a path `q` leads **to the place** of `p`. -/
def ListsAt (t : Tree) (q p : Path) : Prop :=
  ∃ e, get? t q = some e ∧ ∃ a ∈ pathsIn q e, a.sameAs p = true

/-- A tree with every place once lists what it lists **at its places**. -/
theorem lists_iff (h : Distinct t) : Lists t p ↔ ∃ q, ListsAt t q p := by
  constructor
  · rintro ⟨a, ha, hsame⟩
    obtain ⟨⟨q, e⟩, hmem, hq⟩ := mem_filePaths.mp ha
    exact ⟨q, e, get?_of_mem h hmem, a, hq, hsame⟩
  · rintro ⟨q, e, hget, a, ha, hsame⟩
    obtain ⟨q', hmem, hq⟩ := mem_of_get? hget
    obtain ⟨b, hb, hbp⟩ := (exists_pathsIn_congr hq e p).mpr ⟨a, ha, hsame⟩
    exact ⟨b, mem_filePaths.mpr ⟨_, hmem, hb⟩, hbp⟩

/-- Nothing is listed by a tree with nothing in it. -/
theorem not_listsAt_nil : ¬ ListsAt [] q p := by
  rintro ⟨e, hget, -⟩
  simp [get?] at hget

end Tree

namespace Plan

variable {x y : Plan} {xs : List Plan} {p q : Path}

/-! ## Plans about one place -/

/-- Whether the plan is **about the place** of a path. -/
def isAt (q : Path) (x : Plan) : Bool := x.path?.any (·.sameAs q)

/-- Whether plans are about **one place**. -/
def meets (x y : Plan) : Bool := x.path?.any y.isAt

/-- A tree that is added **lists at its place** what it lists, and changes nothing elsewhere. -/
theorem listsAt_extend (acc : Tree) (x : Plan) (q p : Path) :
    Tree.ListsAt (acc.extend x.tree) q p ↔
      if x.isAt q then Tree.Lists x.tree p else Tree.ListsAt acc q p := by
  rcases ha : x.path? with _ | a
  · rw [isAt, ha, tree_of_path?_none ha]
    rfl
  · obtain ⟨e, he⟩ := tree_of_path? ha
    have hextend : acc.extend x.tree = acc.insert a e := by rw [he]; rfl
    rw [isAt, ha, Option.any_some, hextend, he, Tree.ListsAt, Tree.get?_insert]
    by_cases hsame : a.sameAs q = true
    · rw [if_pos hsame, if_pos hsame, Tree.lists_singleton, Tree.exists_pathsIn_congr hsame]
      simp
    · rw [if_neg hsame, if_neg hsame, Tree.ListsAt]

mutual

/-- The **lasting** files of a plan: neither the file nor a folder around it is followed by a sibling
at the same place. -/
def lasting : Plan → List (Path × Content)
  | .skip => []
  | .fault _ => []
  | .file p content => [(p, content)]
  | .folder _ inside => lastingAll inside

/-- The lasting files of plans beside each other. -/
def lastingAll : List Plan → List (Path × Content)
  | [] => []
  | x :: xs => (if xs.any x.meets then [] else lasting x) ++ lastingAll xs

end

/-- A plan **meets** those about its place. -/
theorem meets_of_isAt (h : x.isAt q = true) (y : Plan) : x.meets y = y.isAt q := by
  rw [isAt, Option.any_eq_true] at h
  obtain ⟨a, ha, hsame⟩ := h
  rw [meets, ha, Option.any_some, isAt, isAt]
  refine congrArg (Option.any · y.path?) (funext fun b => ?_)
  exact Path.sameAs_congr_right hsame b

/-- Plans that meet are about **some place** both of them. -/
theorem exists_isAt_of_meets (h : x.meets y = true) : ∃ q, x.isAt q = true ∧ y.isAt q = true := by
  obtain ⟨p, hp, hy⟩ := (Option.any_eq_true _ _).mp h
  exact ⟨p, by rw [isAt, hp, Option.any_some, Path.sameAs_refl], hy⟩

/-- A plan whose tree lists something is about **some place**. -/
theorem exists_isAt_of_lists (h : Tree.Lists x.tree p) : ∃ q, x.isAt q = true := by
  rcases ha : x.path? with _ | a
  · rw [tree_of_path?_none ha] at h
    obtain ⟨q, hq, -⟩ := h
    exact absurd hq List.not_mem_nil
  · exact ⟨a, by rw [isAt, ha, Option.any_some, Path.sameAs_refl]⟩

/-- **One tree** that is added: it lists its own files, unless a plan behind is about its place, and
those of the other tree elsewhere. -/
theorem exists_listsAt_extend (acc : Tree) (x : Plan) (xs : List Plan) (p : Path) :
    (∃ q, (∀ y ∈ xs, y.isAt q = false) ∧ Tree.ListsAt (acc.extend x.tree) q p) ↔
      (∃ q, (∀ y ∈ x :: xs, y.isAt q = false) ∧ Tree.ListsAt acc q p) ∨
        xs.any x.meets = false ∧ Tree.Lists x.tree p := by
  constructor
  · rintro ⟨q, hbehind, hq⟩
    rw [listsAt_extend] at hq
    by_cases hx : x.isAt q = true
    · rw [if_pos hx] at hq
      refine Or.inr ⟨List.any_eq_false.mpr fun y hy => ?_, hq⟩
      rw [meets_of_isAt hx, hbehind y hy]
      exact Bool.false_ne_true
    · rw [if_neg hx] at hq
      exact Or.inl ⟨q, List.forall_mem_cons.mpr ⟨Bool.not_eq_true _ ▸ hx, hbehind⟩, hq⟩
  · rintro (⟨q, hnone, hq⟩ | ⟨hlast, hx⟩)
    · obtain ⟨hx, hbehind⟩ := List.forall_mem_cons.mp hnone
      exact ⟨q, hbehind, by rwa [listsAt_extend, hx, if_neg Bool.false_ne_true]⟩
    · obtain ⟨q, hq⟩ := exists_isAt_of_lists hx
      refine ⟨q, fun y hy => ?_, by rwa [listsAt_extend, if_pos hq]⟩
      rw [← meets_of_isAt hq, ← Bool.not_eq_true]
      exact List.any_eq_false.mp hlast y hy

/-- A tree with trees added to it has **every place once**, if it had before. -/
theorem distinct_treeAll : ∀ {xs : List Plan} {acc : Tree}, Tree.Distinct acc →
    Tree.Distinct (treeAll acc xs)
  | [], _, h => h
  | x :: xs, acc, h => by
    rw [treeAll]
    refine distinct_treeAll ?_
    rcases ha : x.path? with _ | a
    · rwa [tree_of_path?_none ha]
    · obtain ⟨e, he⟩ := tree_of_path? ha
      rw [he]
      exact h.insert a e

mutual

/-- **A tree lists the lasting files** of its plan. -/
theorem lists_tree_iff : ∀ {x : Plan}, Tree.Lists x.tree p ↔ ∃ f ∈ x.lasting, f.1.sameAs p = true
  | .skip => by simp [Tree.Lists, tree, Tree.filePaths, lasting]
  | .fault _ => by simp [Tree.Lists, tree, Tree.filePaths, lasting]
  | .file _ _ => by simp [Tree.Lists, tree, Tree.filePaths, Tree.pathsIn, lasting]
  | .folder _ inside => by
    have hinside : Tree.Lists (treeAll [] inside) p ↔ ∃ f ∈ lastingAll inside, f.1.sameAs p = true := by
      rw [Tree.lists_iff (distinct_treeAll List.Pairwise.nil), exists_listsAt_treeAll inside]
      simp [Tree.not_listsAt_nil]
    rw [lasting, ← hinside, tree, Tree.Lists, Tree.Lists, Tree.filePaths, Tree.pathsIn, Tree.filePaths,
      List.append_nil]

/-- **Trees that are added** to another list the lasting files of their plans, and what the other lists
at places that no plan is about. -/
theorem exists_listsAt_treeAll : ∀ (xs : List Plan) {acc : Tree},
    (∃ q, Tree.ListsAt (treeAll acc xs) q p) ↔
      (∃ q, (∀ x ∈ xs, x.isAt q = false) ∧ Tree.ListsAt acc q p) ∨
        ∃ f ∈ lastingAll xs, f.1.sameAs p = true
  | [], acc => by simp [treeAll, lastingAll]
  | x :: xs, acc => by
    rw [treeAll, exists_listsAt_treeAll xs, exists_listsAt_extend, lists_tree_iff, or_assoc]
    simp only [lastingAll, List.mem_append, or_and_right, exists_or]
    refine or_congr_right (or_congr_left ?_)
    cases xs.any x.meets <;> simp

end

/-! ## Files that are lost -/

/-- Whether the plan is a **folder**. -/
def isFolder : Plan → Bool
  | .folder _ _ => true
  | _ => false

mutual

/-- Whether on every level no **folder** is at the place of another. -/
def foldersApart : Plan → Bool
  | .folder _ inside => foldersApartAll inside
  | _ => true

/-- Whether no folders are at one place among plans beside each other, and inside of them. -/
def foldersApartAll : List Plan → Bool
  | [] => true
  | x :: xs => foldersApart x && !(x.isFolder && xs.any fun y => y.isFolder && x.meets y) &&
      foldersApartAll xs

end

end Plan

/-- No file is due where a **folder** is due. -/
def Due.Unmixed (ys : List Due) : Prop :=
  ∀ p content q below, .file p content ∈ ys → .folder q below ∈ ys → p.sameAs q = false

/-- Part of what is due is unmixed if all of it is. -/
theorem Due.Unmixed.mono {xs ys : List Due} (h : Unmixed ys) (hsub : xs ⊆ ys) : Unmixed xs :=
  fun p content q below hfile hfolder => h p content q below (hsub hfile) (hsub hfolder)

/-- On one disk a file and a directory are **not at one place**. -/
theorem Disk.not_sameAs_of_readBytes {d : Disk} {p q : Path} {bytes : ByteArray}
    (hfile : d.readBytes p = .ok bytes) (hdir : q.text.isEmpty = true ∨ d.isDirectory q = true) :
    p.sameAs q = false := by
  obtain ⟨-, hwalk⟩ := readBytes_iff.mp hfile
  by_contra hsame
  rw [Bool.not_eq_false] at hsame
  rcases hdir with hempty | hdir
  · -- Only the empty path has the components of the empty path, and nothing is there.
    have hp : p.text.isEmpty = true := Path.isEmpty_of_components
      ((Path.sameAs_iff.mp hsame).trans (Path.components_of_isEmpty hempty))
    have hthere : d.pathExists p = true := pathExists_of_readBytes hfile
    rw [pathExists_of_isEmpty hp] at hthere
    exact Bool.false_ne_true hthere
  · obtain ⟨cs, hq⟩ := isDirectory_iff.mp hdir
    have hp := (walk_place hwalk).1
    have hq := (walk_place hq).1
    rw [place_of_sameAs d hsame] at hp
    have hboth := hp.symm.trans hq
    simp at hboth

namespace Plan

variable {x y : Plan} {xs : List Plan} {p q : Path}

/-- After the steps of a plan have succeeded, **no file** is due where a folder is. -/
theorem unmixed_of_runAll {d e : Disk} (h : Step.runAll d x.steps = (e, .ok ())) :
    Due.Unmixed x.due := by
  intro p content q below hfile hfolder
  obtain ⟨bytes, hread⟩ := Step.settled_of_runAll h _ (step_mem_steps hfile)
  exact Disk.not_sameAs_of_readBytes hread (Step.settled_of_runAll h _ (step_mem_steps hfolder))

/-- What is due by **one of several** plans is due by them. -/
theorem due_subset_dueAll : ∀ {xs : List Plan}, x ∈ xs → x.due ⊆ dueAll xs
  | y :: ys, h => by
    rcases List.mem_cons.mp h with rfl | h
    · exact List.subset_append_left _ _
    · exact List.Subset.trans (due_subset_dueAll h) (List.subset_append_right _ _)

/-- A plan about a place is about **a file or a folder** there. -/
theorem file_or_folder_of_isAt (h : x.isAt q = true) :
    (∃ p content, x = .file p content ∧ p.sameAs q = true) ∨
      ∃ p inside, x = .folder p inside ∧ p.sameAs q = true := by
  cases x with
  | skip => exact absurd h Bool.false_ne_true
  | fault e => exact absurd h Bool.false_ne_true
  | file p content => exact Or.inl ⟨p, content, rfl, h⟩
  | folder p inside => exact Or.inr ⟨p, inside, rfl, h⟩

/-- A file and a folder that are due are **not about one place**. -/
theorem not_mixed_of_isAt {below : List Due} {ys : List Due} {content : Content} {a b : Path}
    (hmixed : Due.Unmixed ys) (hfile : .file a content ∈ ys) (hfolder : .folder b below ∈ ys)
    (ha : a.sameAs q = true) : b.sameAs q = false := by
  by_contra hb
  have hsame := Path.sameAs_trans ha (Path.sameAs_symm (Bool.of_not_eq_false hb))
  rw [hmixed a content b below hfile hfolder] at hsame
  exact Bool.false_ne_true hsame

/-- Where no folders are at one place, and no file is where a folder is, plans that meet are **two
files**. -/
theorem files_of_meets (hmixed : Due.Unmixed (dueAll (x :: xs)))
    (hapart : foldersApartAll (x :: xs) = true) (hy : y ∈ xs) (h : x.meets y = true) :
    ∃ p content q content', x = .file p content ∧ y = .file q content' ∧ q.sameAs p = true := by
  obtain ⟨q, hxq, hyq⟩ := exists_isAt_of_meets h
  have hxdue : x.due ⊆ dueAll (x :: xs) := due_subset_dueAll List.mem_cons_self
  have hydue : y.due ⊆ dueAll (x :: xs) := due_subset_dueAll (List.mem_cons_of_mem _ hy)
  rcases file_or_folder_of_isAt hxq with ⟨p, content, rfl, hp⟩ | ⟨p, inside, rfl, hp⟩ <;>
    rcases file_or_folder_of_isAt hyq with ⟨a, content', rfl, ha⟩ | ⟨a, inside', rfl, ha⟩
  · exact ⟨p, content, a, content', rfl, rfl, Path.sameAs_trans ha (Path.sameAs_symm hp)⟩
  · have hfalse := not_mixed_of_isAt hmixed (hxdue (List.mem_singleton_self _))
      (hydue List.mem_concat_self) hp
    simp [ha] at hfalse
  · have hfalse := not_mixed_of_isAt hmixed (hydue (List.mem_singleton_self _))
      (hxdue List.mem_concat_self) ha
    simp [hp] at hfalse
  · simp only [foldersApartAll, isFolder, Bool.true_and, Bool.and_eq_true, Bool.not_eq_true'] at hapart
    have hfalse := List.any_eq_false.mp hapart.1.2 _ hy
    simp [h] at hfalse

/-- Where no folders are at one place, and no file is where a folder is, the file of a plan that meets
one behind is **written again**. -/
theorem exists_file_of_meets (hmixed : Due.Unmixed (dueAll (x :: xs)))
    (hapart : foldersApartAll (x :: xs) = true) (h : xs.any x.meets = true) :
    ∀ f ∈ x.files, ∃ g ∈ filesAll xs, g.1.sameAs f.1 = true := by
  intro f hf
  obtain ⟨y, hy, hxy⟩ := List.any_eq_true.mp h
  obtain ⟨p, content, q, content', rfl, rfl, hqp⟩ := files_of_meets hmixed hapart hy hxy
  obtain rfl : f = (p, content) := List.mem_singleton.mp hf
  have hdue : Due.file q content' ∈ dueAll xs := due_subset_dueAll hy (List.mem_singleton_self _)
  exact ⟨(q, content'), List.mem_filterMap.mpr ⟨_, hdue, rfl⟩, hqp⟩

mutual

/-- Where no folders are at one place, and no file is where a folder is, **every file** leads to the
place of one that lasts. -/
theorem exists_lasting : ∀ {x : Plan}, x.foldersApart = true → Due.Unmixed x.due →
    ∀ f ∈ x.files, ∃ g ∈ x.lasting, g.1.sameAs f.1 = true
  | .skip, _, _, f, hf => absurd hf List.not_mem_nil
  | .fault _, _, _, f, hf => absurd hf List.not_mem_nil
  | .file p content, _, _, f, hf => ⟨f, hf, Path.sameAs_refl _⟩
  | .folder p inside, hapart, hmixed, f, hf => by
    rw [files_folder] at hf
    exact exists_lastingAll hapart (hmixed.mono (List.subset_append_left _ _)) f hf

/-- Where no folders are at one place, and no file is where a folder is, every file of plans leads to
the place of one that lasts. -/
theorem exists_lastingAll : ∀ {xs : List Plan}, foldersApartAll xs = true → Due.Unmixed (dueAll xs) →
    ∀ f ∈ filesAll xs, ∃ g ∈ lastingAll xs, g.1.sameAs f.1 = true
  | [], _, _, f, hf => absurd hf List.not_mem_nil
  | x :: xs, hapart, hmixed, f, hf => by
    obtain ⟨⟨hx, -⟩, hxs⟩ : (x.foldersApart = true ∧ _) ∧ foldersApartAll xs = true := by
      simpa only [foldersApartAll, Bool.and_eq_true] using hapart
    have hrest : ∀ f ∈ filesAll xs, ∃ g ∈ lastingAll (x :: xs), g.1.sameAs f.1 = true := by
      intro f hf
      obtain ⟨g, hg, hsame⟩ :=
        exists_lastingAll hxs (hmixed.mono (List.subset_append_right _ _)) f hf
      exact ⟨g, List.mem_append_right _ hg, hsame⟩
    rw [filesAll_cons, List.mem_append] at hf
    rcases hf with hf | hf
    · cases hmeets : xs.any x.meets with
      | false =>
        obtain ⟨g, hg, hsame⟩ := exists_lasting hx (hmixed.mono (List.subset_append_left _ _)) f hf
        exact ⟨g, by rw [lastingAll, hmeets]; exact List.mem_append_left _ hg, hsame⟩
      | true =>
        obtain ⟨later, hlater, hagain⟩ := exists_file_of_meets hmixed hapart hmeets f hf
        obtain ⟨g, hg, hsame⟩ := hrest later hlater
        exact ⟨g, hg, Path.sameAs_trans hsame hagain⟩
    · exact hrest f hf

end

end Plan

/-! ## What was written and what is listed -/

namespace Node

variable {r : Renderer} {context : Context} {override : Option Path} {base : Path} {d : Disk}

/-- A node that was written without a failure has written **the files of its plan**. -/
theorem written_of_materialize {n : Node} {t : Tree}
    (hind : Independent r context override base d n)
    (hok : (materialize r context override base d n).2 = .ok t) :
    (script r context override base d n).filterMap Step.file? =
      (plan r d context override base n).files := by
  have hrun := runAll_of_materialize hind.steady hok
  rw [script_eq_steps_of_runAll n hrun fun done hdone _ => hind.steady _ ⟨done, hdone, rfl⟩,
    Plan.filterMap_steps]

/-- **Which files the returned tree lists.**  Where rendering is independent of what is written and
writing succeeds, the tree lists the places of the lasting files, and no others.  So it lists every
file that was written, if on no level two folders are at one place. -/
theorem materialize_lists {n : Node} {t : Tree} (hind : Independent r context override base d n)
    (hok : (materialize r context override base d n).2 = .ok t) :
    (∀ p, t.Lists p ↔
      ∃ f ∈ (plan r d context override base n).lasting, f.1.sameAs p = true) ∧
    ((plan r d context override base n).foldersApart = true →
      ∀ f ∈ (script r context override base d n).filterMap Step.file?, t.Lists f.1) := by
  have hlists : ∀ p, t.Lists p ↔
      ∃ f ∈ (plan r d context override base n).lasting, f.1.sameAs p = true := fun p => by
    rw [← tree_of_materialize hind.steady hok, Plan.lists_tree_iff]
  refine ⟨hlists, fun hapart f hf => ?_⟩
  have hmixed := Plan.unmixed_of_runAll (runAll_of_materialize hind.steady hok)
  rw [written_of_materialize hind hok] at hf
  exact (hlists f.1).mpr (Plan.exists_lasting hapart hmixed f hf)

/-- A folder with **two files** of one name, and a folder of another. -/
def rewritten : Node :=
  .folder none (.literal "r") [.file none (.literal "a") (.text "x"),
    .folder none (.literal "d") [.file none (.literal "a") (.text "z")],
    .file none (.literal "a") (.text "y")]

/-- All files of the sample are listed: a file that is written twice **keeps its path**. -/
theorem materialize_lists_rewritten : ∃ t,
    (materialize bareRenderer [] none ⟨"out"⟩ (Disk.bare ["w"]) rewritten).2 = .ok t ∧
    ((script bareRenderer [] none ⟨"out"⟩ (Disk.bare ["w"]) rewritten).filterMap
      Step.file?).map Prod.fst = [⟨"out/r/a"⟩, ⟨"out/r/d/a"⟩, ⟨"out/r/a"⟩] ∧
    t.Lists ⟨"out/r/a"⟩ ∧ t.Lists ⟨"out/r/d/a"⟩ := by
  have hind : Independent bareRenderer [] none ⟨"out"⟩ (Disk.bare ["w"]) rewritten :=
    independent_of_embedded isEmbedded_bareRenderer fun p hp => absurd hp List.not_mem_nil
  have hok : (materialize bareRenderer [] none ⟨"out"⟩ (Disk.bare ["w"]) rewritten).2.isOk =
      true := by decide +kernel
  have hwritten : ((script bareRenderer [] none ⟨"out"⟩ (Disk.bare ["w"]) rewritten).filterMap
      Step.file?).map Prod.fst = [⟨"out/r/a"⟩, ⟨"out/r/d/a"⟩, ⟨"out/r/a"⟩] := by decide +kernel
  have hapart : (plan bareRenderer (Disk.bare ["w"]) [] none ⟨"out"⟩ rewritten).foldersApart =
      true := by decide +kernel
  obtain ⟨t, ht⟩ := exists_of_isOk hok
  have hlists := (materialize_lists hind ht).2 hapart
  rw [← List.forall_mem_map, hwritten] at hlists
  exact ⟨t, ht, hwritten, hlists _ List.mem_cons_self,
    hlists _ (List.mem_cons_of_mem _ List.mem_cons_self)⟩

/-- A folder in which **two folders** have one name. -/
def forked : Node :=
  .folder none (.literal "r")
    [.folder none (.literal "d") [.file none (.literal "a") (.text "x")],
      .folder none (.literal "d") [.file none (.literal "b") (.text "y")]]

/-- The file in the first of two folders at one place is written and stays on the disk, and the tree
**does not list** it. -/
theorem materialize_loses_forked :
    Independent bareRenderer [] none ⟨"out"⟩ (Disk.bare ["w"]) forked ∧
    ∃ t, (materialize bareRenderer [] none ⟨"out"⟩ (Disk.bare ["w"]) forked).2 = .ok t ∧
      ((script bareRenderer [] none ⟨"out"⟩ (Disk.bare ["w"]) forked).filterMap
        Step.file?).map Prod.fst = [⟨"out/r/d/a"⟩, ⟨"out/r/d/b"⟩] ∧
      ((materialize bareRenderer [] none ⟨"out"⟩ (Disk.bare ["w"]) forked).1.readText
        ⟨"out/r/d/a"⟩).toOption = some "x" ∧
      Tree.filePaths t = [⟨"out/r/d/b"⟩] ∧ ¬ t.Lists ⟨"out/r/d/a"⟩ := by
  have hok : (materialize bareRenderer [] none ⟨"out"⟩ (Disk.bare ["w"]) forked).2.isOk = true := by
    decide +kernel
  obtain ⟨t, ht⟩ := exists_of_isOk hok
  have hfiles : ((materialize bareRenderer [] none ⟨"out"⟩ (Disk.bare ["w"]) forked).2.toOption.map
      Tree.filePaths) = some [⟨"out/r/d/b"⟩] := by decide +kernel
  rw [ht] at hfiles
  refine ⟨independent_of_embedded isEmbedded_bareRenderer fun p hp => absurd hp List.not_mem_nil,
    t, ht, by decide +kernel, by decide +kernel, Option.some.inj hfiles, ?_⟩
  rintro ⟨q, hq, hsame⟩
  rw [Option.some.inj hfiles, List.mem_singleton] at hq
  subst hq
  exact absurd hsame (by decide +kernel)

end Node

end Scaffold
