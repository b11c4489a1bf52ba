import Scaffold.Proofs.Node.Plan
import Scaffold.Proofs.Path.Within

/-!
# Proofs/Node/Inside — layouts that stay below their folder

The **keys** of a tree are the paths of all its entries, at any depth (`Tree.keys`).  Where every
name of a node is written out and plain (`Node.isPlain`), all keys of its tree are below the path it
is rendered in (`below_of_isPlain`).  A plan that stands **beside** a name (`Plan.Beside`) changes
nothing at that name, so what one of the children comes to is what the tree has there
(`get?_treeAll_middle`).
-/

namespace Scaffold

/-! ## Keys of a tree -/

namespace Tree

mutual

/-- The paths of an entry: its own, and those of all in it. -/
def keysIn (p : Path) : Rendered → List Path
  | .file _ => [p]
  | .folder children => p :: keys children

/-- The **keys** of a tree: the path of every file and folder, depth first. -/
def keys : List (Path × Rendered) → List Path
  | [] => []
  | (p, e) :: t => keysIn p e ++ keys t

end

variable {t u : Tree} {p q : Path} {e : Rendered}

theorem keys_singleton (p : Path) (e : Rendered) : keys [(p, e)] = keysIn p e := by
  rw [keys, keys, List.append_nil]

/-- The path of an entry is **one of its paths**. -/
theorem self_mem_keysIn (p : Path) (e : Rendered) : p ∈ keysIn p e := by
  cases e <;> exact List.mem_cons_self

/-- The other paths of an entry do not depend on **its own**. -/
theorem mem_keysIn (h : q ∈ keysIn p e) : q = p ∨ ∀ p', q ∈ keysIn p' e := by
  cases e with
  | file content => exact Or.inl (List.mem_singleton.mp h)
  | folder children => exact (List.mem_cons.mp h).imp_right fun hq _ => List.mem_cons_of_mem _ hq

/-- **Adding an entry** adds no keys but its own. -/
theorem mem_keys_insert : ∀ {t : Tree}, q ∈ keys (insert t p e) → q ∈ keys t ∨ q ∈ keysIn p e
  | [], h => Or.inr (keys_singleton p e ▸ h)
  | (p', old) :: t, h => by
    rw [insert] at h
    rw [keys, List.mem_append]
    split at h
    · rw [keys, List.mem_append] at h
      rcases h with h | h
      · rcases mem_keysIn h with rfl | h
        · exact Or.inl (Or.inl (self_mem_keysIn _ _))
        · exact Or.inr (h p)
      · exact Or.inl (Or.inr h)
    · rw [keys, List.mem_append] at h
      rcases h with h | h
      · exact Or.inl (Or.inl h)
      · exact (mem_keys_insert h).imp_left Or.inr

/-- Adding a tree adds no keys but **those it has**. -/
theorem mem_keys_extend : ∀ {u t : Tree}, q ∈ keys (extend t u) → q ∈ keys t ∨ q ∈ keys u
  | [], _, h => Or.inl h
  | (p, e) :: u, t, h => by
    rw [keys, List.mem_append]
    rcases mem_keys_extend (u := u) (t := insert t p e) h with h | h
    · exact (mem_keys_insert h).imp_right Or.inl
    · exact Or.inr (Or.inr h)

mutual

/-- The files below an entry are **among its paths**. -/
theorem mem_keysIn_of_file : ∀ {e : Rendered} {p q : Path}, q ∈ pathsIn p e → q ∈ keysIn p e
  | .file _, _, _, h => h
  | .folder _, _, _, h => List.mem_cons_of_mem _ (mem_keys_of_file h)

/-- **Files** have keys of the tree. -/
theorem mem_keys_of_file : ∀ {t : List (Path × Rendered)} {q : Path}, q ∈ filePaths t → q ∈ keys t
  | (_, _) :: _, _, h => List.mem_append.mpr
    ((List.mem_append.mp h).imp mem_keysIn_of_file mem_keys_of_file)

end

/-- A tree **stays below** a path: all its keys are below it. -/
def StaysBelow (base : Path) (t : Tree) : Prop := ∀ q ∈ keys t, q.Below base

theorem staysBelow_nil (base : Path) : StaysBelow base [] := fun _ hq => absurd hq List.not_mem_nil

/-- A folder stays below a path that it is below itself, if **all in it** is below the folder. -/
theorem staysBelow_folder {base : Path} (hp : p.Below base) (ht : StaysBelow p t) :
    StaysBelow base [(p, .folder t)] := by
  intro q hq
  rw [keys_singleton] at hq
  rcases List.mem_cons.mp hq with rfl | hq
  · exact hp
  · exact (ht q hq).trans_within hp.within

/-- What is found on a level has its keys **in the tree**. -/
theorem mem_keys_of_get? : ∀ {t : Tree} {e : Rendered}, get? t p = some e →
    ∃ p', p'.sameAs p = true ∧ ∀ q ∈ keysIn p' e, q ∈ keys t
  | (p', old) :: t, e, h => by
    rw [get?] at h
    rw [keys]
    split at h
    · next hp =>
      obtain rfl := Option.some.inj h
      exact ⟨p', hp, fun q hq => List.mem_append_left _ hq⟩
    · obtain ⟨p'', hp, hsub⟩ := mem_keys_of_get? h
      exact ⟨p'', hp, fun q hq => List.mem_append_right _ (hsub q hq)⟩

/-- **An added entry** is found at every path to its place. -/
theorem get?_insert_self : ∀ (t : Tree) (p : Path) (e : Rendered), get? (insert t p e) p = some e
  | [], p, e => if_pos (Path.sameAs_refl p)
  | (q, old) :: t, p, e => by
    rw [insert]
    split
    · next hq => rw [get?, if_pos hq]
    · next hq => rw [get?, if_neg hq, get?_insert_self t p e]

/-- An entry that is added **elsewhere** changes nothing. -/
theorem get?_insert_of_not_sameAs (h : p.sameAs q = false) :
    ∀ t : Tree, get? (insert t p e) q = get? t q
  | [] => if_neg (by simp [h])
  | (p', old) :: t => by
    rw [insert, get?]
    split
    · next hp =>
      -- The entry is replaced at a path to the same place, which is not that of `q` either.
      have hp' : ¬ p'.sameAs q = true := by
        rw [Path.sameAs_congr hp, h]
        exact Bool.false_ne_true
      rw [get?, if_neg hp', if_neg hp']
    · rw [get?, get?_insert_of_not_sameAs h t]

end Tree

/-! ## Names that are written out -/

/-- A name is written out, and **plain**. -/
def Name.isPlain : Name → Bool
  | .literal s => decide (Path.IsPlain s)
  | _ => false

section

variable {r : Renderer} {d : Disk} {context : Context}

/-- A plain name comes to the **text that is written out**. -/
theorem Name.static?_of_resolve {name : Name} {s : String} (h : name.isPlain = true)
    (hs : name.resolve r d context = .ok (some s)) : name.static? = some s := by
  cases name with
  | literal t => exact congrArg some (Option.some.inj (Except.ok.inj hs))
  | template text => simp [isPlain] at h
  | computed f => simp [isPlain] at h

/-- A plain name comes to a **plain text**. -/
theorem Name.isPlain_of_resolve {name : Name} (h : name.isPlain = true) (s : String)
    (hs : name.resolve r d context = .ok (some s)) : Path.IsPlain s := by
  cases name with
  | literal t =>
    obtain rfl := Option.some.inj (Except.ok.inj hs)
    exact of_decide_eq_true h
  | template text => simp [isPlain] at h
  | computed f => simp [isPlain] at h

end

/-! ## Plans beside a name -/

namespace Plan

variable {base : Path} {name : String} {xs ys : List Plan} {x : Plan}

/-- Adding the trees of plans adds no keys but **those they have**. -/
theorem mem_keys_treeAll {q : Path} : ∀ {xs : List Plan} {acc : Tree},
    q ∈ Tree.keys (treeAll acc xs) → q ∈ Tree.keys acc ∨ ∃ x ∈ xs, q ∈ Tree.keys x.tree
  | [], _, h => Or.inl h
  | x :: xs, acc, h => by
    rw [treeAll] at h
    rcases mem_keys_treeAll h with h | ⟨y, hy, h⟩
    · exact (Tree.mem_keys_extend h).imp_right fun hx => ⟨x, List.mem_cons_self, hx⟩
    · exact Or.inr ⟨y, List.mem_cons_of_mem _ hy, h⟩

/-- Trees that stay below a path are added up to **one that does**. -/
theorem staysBelow_treeAll (h : ∀ x ∈ xs, Tree.StaysBelow base x.tree) :
    Tree.StaysBelow base (treeAll [] xs) := by
  intro q hq
  rcases mem_keys_treeAll hq with hq | ⟨x, hx, hq⟩
  · exact absurd hq List.not_mem_nil
  · exact h x hx q hq

/-- A plan stands **beside** a name in a folder: its tree stays below the folder, and it is about
another name. -/
structure Beside (base : Path) (name : String) (x : Plan) : Prop where
  below : Tree.StaysBelow base x.tree
  apart : ∀ q, x.path? = some q → q.sameAs (base.joinName name) = false

/-- Plans beside a name **add nothing** there. -/
theorem get?_treeAll_of_beside : ∀ {xs : List Plan} {acc : Tree}, (∀ x ∈ xs, x.Beside base name) →
    Tree.get? (treeAll acc xs) (base.joinName name) = Tree.get? acc (base.joinName name)
  | [], _, _ => rfl
  | x :: xs, acc, h => by
    rw [List.forall_mem_cons] at h
    rw [treeAll, get?_treeAll_of_beside h.2]
    rcases hp : x.path? with _ | p
    · rw [tree_of_path?_none hp]
      rfl
    · obtain ⟨e, he⟩ := tree_of_path? hp
      rw [he]
      exact Tree.get?_insert_of_not_sameAs (h.1.apart p hp) acc

/-- What **one of the children** comes to is what the tree has there. -/
theorem get?_treeAll_middle {e : Rendered} (hys : ∀ y ∈ ys, y.Beside base name)
    (hx : x.tree = [(base.joinName name, e)]) :
    Tree.get? (treeAll [] (xs ++ x :: ys)) (base.joinName name) = some e := by
  rw [treeAll_append, treeAll, get?_treeAll_of_beside hys, hx]
  exact Tree.get?_insert_self _ _ _

end Plan

/-! ## Nodes whose names are written out -/

namespace Node

mutual

/-- Whether every name of a node is written out and **plain**. -/
def isPlain : Node → Bool
  | .file _ name _ => name.isPlain
  | .folder _ name contents => name.isPlain && isPlainAll contents

/-- Whether every name of nodes is. -/
def isPlainAll : List Node → Bool
  | [] => true
  | n :: ns => isPlain n && isPlainAll ns

end

theorem isPlainAll_eq_all : ∀ ns : List Node, isPlainAll ns = ns.all isPlain
  | [] => rfl
  | n :: ns => by rw [isPlainAll, isPlainAll_eq_all ns, List.all_cons]

variable {r : Renderer} {d : Disk} {context : Context} {base : Path}

/-- A path of a node is what its **name** comes to, below the base. -/
theorem path_eq_ok {name : Name} {q : Path} (h : path r d context none base name = .ok (some q)) :
    ∃ s, name.resolve r d context = .ok (some s) ∧ q = base.joinName s := by
  rw [path] at h
  rcases hs : name.resolve r d context with e | _ | s
  · simp [hs, Except.map] at h
  · simp [hs, Except.map] at h
  · simp only [hs, Except.map, Option.map_some, Except.ok.injEq, Option.some.injEq] at h
    exact ⟨s, rfl, h.symm⟩

/-- The plan of a node is about the **path of the node**. -/
theorem path_of_plan {n : Node} {override : Option Path} {q : Path}
    (h : (n.plan r d context override base).path? = some q) :
    path r d context override base n.name = .ok (some q) := by
  cases n with
  | file id name source =>
    rw [plan, renderedFile] at h
    rcases hp : path r d context override base name with e | _ | p
    · simp [hp, Plan.path?] at h
    · simp [hp, Plan.path?] at h
    · rcases hc : source.render r d context with e | _ | content <;>
        simp_all [Except.map, Plan.path?, Node.name]
  | folder id name contents =>
    rw [plan] at h
    rcases hp : path r d context override base name with e | _ | p <;>
      simp_all [Plan.path?, Node.name]

/-- A name that comes to nothing but plain texts leads **below** the base. -/
theorem below_of_path {name : Name} {q : Path}
    (h : ∀ s, name.resolve r d context = .ok (some s) → Path.IsPlain s)
    (hq : path r d context none base name = .ok (some q)) : q.Below base := by
  obtain ⟨s, hs, rfl⟩ := path_eq_ok hq
  exact Path.below_joinName (h s hs) base

/-- A **file** whose name comes to nothing but plain texts stays below the base. -/
theorem staysBelow_file {id : Option String} {name : Name} {source : Source}
    (h : ∀ s, name.resolve r d context = .ok (some s) → Path.IsPlain s) :
    Tree.StaysBelow base ((file id name source).plan r d context none base).tree := by
  rcases hp : ((file id name source).plan r d context none base).path? with _ | p
  · rw [Plan.tree_of_path?_none hp]
    exact Tree.staysBelow_nil base
  · have hbelow := below_of_path h (path_of_plan hp)
    rw [plan] at hp ⊢
    split at hp
    · simp [Plan.path?] at hp
    · simp [Plan.path?] at hp
    · obtain rfl := Option.some.inj hp
      intro q hq
      obtain rfl := List.mem_singleton.mp hq
      exact hbelow

mutual

/-- Where names are written out and plain, the tree stays **below the base**. -/
theorem staysBelow_of_isPlain : ∀ {n : Node} {base : Path}, n.isPlain = true →
    Tree.StaysBelow base (n.plan r d context none base).tree
  | .file id name source, base, h => staysBelow_file (Name.isPlain_of_resolve h)
  | .folder id name contents, base, h => by
    rw [isPlain, Bool.and_eq_true] at h
    rw [plan]
    rcases hp : path r d context none base name with e | _ | p
    · exact Tree.staysBelow_nil base
    · exact Tree.staysBelow_nil base
    · have hbelow := below_of_path (Name.isPlain_of_resolve h.1) hp
      have hinside : ∀ x ∈ planAll r d context p contents, Tree.StaysBelow p x.tree :=
        staysBelow_of_isPlainAll h.2
      exact Tree.staysBelow_folder hbelow (Plan.staysBelow_treeAll hinside)

/-- Where names are written out and plain, each tree stays **below the base**. -/
theorem staysBelow_of_isPlainAll : ∀ {ns : List Node} {base : Path}, isPlainAll ns = true →
    ∀ x ∈ planAll r d context base ns, Tree.StaysBelow base x.tree
  | [], _, _ => fun x hx => absurd hx List.not_mem_nil
  | n :: ns, base, h => by
    rw [isPlainAll, Bool.and_eq_true] at h
    exact List.forall_mem_cons.mpr ⟨staysBelow_of_isPlain h.1, staysBelow_of_isPlainAll h.2⟩

end

/-! ## Standing beside a name -/

/-- A node whose name comes to other texts than a plain one is **apart** from it. -/
theorem apart_of_plan {n : Node} {name : String} (hname : Path.IsPlain name)
    (h : ∀ s, n.name.resolve r d context = .ok (some s) → Path.IsPlain s ∧ s ≠ name) :
    ∀ q, (n.plan r d context none base).path? = some q → q.sameAs (base.joinName name) = false := by
  intro q hq
  obtain ⟨s, hs, rfl⟩ := path_eq_ok (path_of_plan hq)
  obtain ⟨hplain, hne⟩ := h s hs
  rw [Bool.eq_false_iff]
  exact fun hsame => hne (Path.eq_of_sameAs_joinName hplain hname hsame)

/-- A node whose names are written out and plain stands **beside** any other plain name. -/
theorem beside_of_isPlain {n : Node} {name : String} (hname : Path.IsPlain name)
    (h : n.isPlain = true) (hne : n.name.static? ≠ some name) :
    (n.plan r d context none base).Beside base name := by
  have hown : n.name.isPlain = true := by
    cases n with
    | file id own source => exact h
    | folder id own contents => exact (Bool.and_eq_true_iff.mp h).1
  refine ⟨staysBelow_of_isPlain h, apart_of_plan hname fun s hs => ⟨Name.isPlain_of_resolve hown s hs, ?_⟩⟩
  rintro rfl
  exact hne (Name.static?_of_resolve hown hs)

end Node

end Scaffold
