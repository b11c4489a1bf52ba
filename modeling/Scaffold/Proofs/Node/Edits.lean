import Mathlib.Data.List.Perm.Basic
import Scaffold.Node.Basic

/-!
# Proofs/Node/Edits — editing the children of a folder

A child is set, pushed, or several are appended, in a folder or in one that keys lead to
(`Folder.Edit`).  What an edit answers and leaves is said in terms of clashes: a node clashes with others
if it has the identifier of one of them (`Node.Clashes`).  A push and a setting are refused for a clash
with a child that stays (`push_eq_error`, `set_eq_error`); an extension ends at the first clash
(`extend_eq_error`).  An edit behind keys is that of the folder they lead to (`follow_change`), and its
failure leaves the whole folder as it was, if it does so there (`change_of_error`).
-/

namespace Scaffold

namespace Node

/-- The **identifiers** of nodes, in order. -/
def ids (ns : List Node) : List String := ns.filterMap id?

/-- A node **clashes** with others if it has the identifier of one of them. -/
def Clashes (n : Node) (ns : List Node) : Prop := ∃ id, n.id? = some id ∧ id ∈ ids ns

instance (n : Node) (ns : List Node) : Decidable (n.Clashes ns) :=
  match h : n.id? with
  | none => isFalse fun ⟨id, hid, _⟩ => by simp [h] at hid
  | some id => decidable_of_iff (id ∈ ids ns) (by simp [Clashes, h])

/-- The **first repeated** identifier of nodes: it stands among those before it, which all differ. -/
def FirstRepeated (ns : List Node) (id : String) : Prop :=
  ∃ before after, ids ns = before ++ id :: after ∧ before.Nodup ∧ id ∈ before

variable {n : Node} {ns ms : List Node} {id : String}

theorem ids_cons_of_none (h : n.id? = none) : ids (n :: ns) = ids ns :=
  List.filterMap_cons_none h

theorem ids_cons_of_some (h : n.id? = some id) : ids (n :: ns) = id :: ids ns :=
  List.filterMap_cons_some h

/-- A node in front leaves the identifiers **different** if it does not clash. -/
theorem nodup_ids_cons : (ids (n :: ns)).Nodup ↔ ¬n.Clashes ns ∧ (ids ns).Nodup := by
  cases h : n.id? with
  | none =>
    have hfree : ¬n.Clashes ns := by
      rintro ⟨id, hid, -⟩
      simp [h] at hid
    rw [ids_cons_of_none h]
    exact ⟨fun hns => ⟨hfree, hns⟩, And.right⟩
  | some id =>
    have hclash : n.Clashes ns ↔ id ∈ ids ns := by simp [Clashes, h]
    rw [ids_cons_of_some h, List.nodup_cons, hclash]

/-- A node **is a folder** if it is that folder as a node. -/
theorem folder?_eq_some {f : Folder} : n.folder? = some f ↔ n = f.toNode := by
  cases n <;> cases f <;> simp [folder?, Folder.toNode]

/-- Identifiers do not depend on the **order** of nodes as far as they differ. -/
theorem nodup_ids_of_perm (h : ns.Perm ms) : (ids ns).Nodup ↔ (ids ms).Nodup :=
  (h.filterMap id?).nodup_iff

/-- Identifiers **stay different** when a node joins some of the nodes and clashes with none of them. -/
theorem nodup_ids_join {rest : List Node} (h : (ids ns).Nodup) (hperm : ms.Perm (n :: rest))
    (hrest : rest.Sublist ns) (hfree : ¬n.Clashes rest) : (ids ms).Nodup := by
  rw [nodup_ids_of_perm hperm, nodup_ids_cons]
  exact ⟨hfree, h.sublist (hrest.filterMap id?)⟩

end Node

namespace Folder

open Node

variable {f g : Folder} {n : Node} {ns : List Node} {key id : String} {e : Error}

/-! ## Making a folder -/

/-- **Nothing is repeated** among nodes, and nothing of what was seen, if all identifiers differ. -/
theorem repeatedId?_eq_none : ∀ {seen : List String} {ns : List Node},
    repeatedId? seen ns = none ↔ (ids ns).Nodup ∧ ∀ x ∈ ids ns, x ∉ seen
  | seen, [] => by simp [repeatedId?, ids]
  | seen, n :: ns => by
    rw [repeatedId?]
    cases h : n.id? with
    | none =>
      rw [ids_cons_of_none h]
      exact repeatedId?_eq_none
    | some id =>
      rw [ids_cons_of_some h, List.nodup_cons]
      by_cases hseen : id ∈ seen
      · simp [hseen]
      · simp only [List.contains_eq_mem, hseen, decide_false, Bool.false_eq_true, if_false]
        rw [repeatedId?_eq_none]
        simp only [List.mem_cons, forall_eq_or_imp]
        grind

/-- The first of some names that is **seen or stands before itself**. -/
def FirstSeen (seen xs : List String) (id : String) : Prop :=
  ∃ before after, xs = before ++ id :: after ∧ before.Nodup ∧ (∀ x ∈ before, x ∉ seen) ∧
    (id ∈ before ∨ id ∈ seen)

/-- A name in front that **was seen** is the first. -/
theorem firstSeen_cons_of_mem {seen xs : List String} {own : String} (hseen : own ∈ seen) :
    FirstSeen seen (own :: xs) id ↔ own = id := by
  constructor
  · rintro ⟨before, after, heq, -, hfresh, -⟩
    cases before with
    | nil => exact (List.cons.inj heq).1
    | cons b before =>
      obtain rfl := (List.cons.inj heq).1
      exact absurd hseen (hfresh own List.mem_cons_self)
  · rintro rfl
    exact ⟨[], xs, rfl, List.nodup_nil, by simp, Or.inr hseen⟩

/-- A name in front that was not seen **is seen** from then on. -/
theorem firstSeen_cons_of_not_mem {seen xs : List String} {own : String} (hseen : own ∉ seen) :
    FirstSeen seen (own :: xs) id ↔ FirstSeen (own :: seen) xs id := by
  constructor
  · rintro ⟨before, after, heq, hnodup, hfresh, hid⟩
    cases before with
    | nil =>
      obtain rfl := (List.cons.inj heq).1
      simp [hseen] at hid
    | cons b before =>
      obtain ⟨rfl, htail⟩ := List.cons.inj heq
      rw [List.nodup_cons] at hnodup
      exact ⟨before, after, htail, hnodup.2, by grind, by grind⟩
  · rintro ⟨before, after, heq, hnodup, hfresh, hid⟩
    refine ⟨own :: before, after, by rw [heq, List.cons_append], ?_, ?_, by grind⟩
    · exact List.nodup_cons.mpr ⟨fun hmem => hfresh own hmem List.mem_cons_self, hnodup⟩
    · exact List.forall_mem_cons.mpr
        ⟨hseen, fun x hx hxs => hfresh x hx (List.mem_cons_of_mem _ hxs)⟩

/-- **The repeated identifier** is the first that was seen or stands before itself. -/
theorem repeatedId?_eq_some : ∀ {seen : List String} {ns : List Node},
    repeatedId? seen ns = some id ↔ FirstSeen seen (ids ns) id
  | seen, [] => by simp [repeatedId?, ids, FirstSeen]
  | seen, n :: ns => by
    rw [repeatedId?]
    cases h : n.id? with
    | none =>
      rw [ids_cons_of_none h]
      exact repeatedId?_eq_some
    | some own =>
      rw [ids_cons_of_some h]
      by_cases hseen : own ∈ seen
      · simp [hseen, firstSeen_cons_of_mem]
      · simp only [List.contains_eq_mem, hseen, decide_false, Bool.false_eq_true, if_false]
        rw [repeatedId?_eq_some, firstSeen_cons_of_not_mem hseen]

/-- **A folder is made** of nodes whose identifiers differ. -/
theorem of_eq_ok {name : Name} :
    Folder.of name ns = .ok f ↔ (ids ns).Nodup ∧ f = ⟨none, name, ns⟩ := by
  have hnone : repeatedId? [] ns = none ↔ _ := repeatedId?_eq_none
  rw [of]
  cases h : repeatedId? [] ns <;> simp_all [eq_comm]

/-- A folder is **refused** for the first identifier that is repeated. -/
theorem of_eq_error {name : Name} :
    Folder.of name ns = .error e ↔ ∃ id, FirstRepeated ns id ∧ e = .duplicateId id := by
  have hsome : ∀ id, repeatedId? [] ns = some id ↔ FirstRepeated ns id := fun id => by
    rw [repeatedId?_eq_some]
    simp [FirstSeen, FirstRepeated]
  rw [of]
  cases h : repeatedId? [] ns with
  | none => simp [← hsome, h]
  | some id => simp [← hsome, h, eq_comm]

/-! ## Changing the children -/

/-- The children that **stay** when the one at a position is replaced, or one is appended. -/
def others (f : Folder) : Option Nat → List Node
  | some i => f.contents.eraseIdx i
  | none => f.contents

/-- An identifier is **taken** if one of the children that stay has it. -/
theorem taken_eq_some {replaced : Option Nat} :
    f.taken n replaced = some id ↔ n.id? = some id ∧ id ∈ ids (f.others replaced) := by
  have hstay : ∀ c : Node, (∃ i, f.contents[i]? = some c ∧ some i ≠ replaced) ↔
      c ∈ f.others replaced := fun c => by
    cases replaced with
    | none => simp [others, List.mem_iff_getElem?]
    | some j => simp [others, List.mem_eraseIdx_iff_getElem?, and_comm]
  rw [taken, Option.filter_eq_some_iff, List.any_eq_true]
  refine and_congr_right fun _ => ?_
  simp only [Prod.exists, List.mem_zipIdx_iff_getElem?, Bool.and_eq_true, bne_iff_ne, beq_iff_eq,
    ids, List.mem_filterMap, ← hstay]
  constructor
  · rintro ⟨c, i, hc, hi, hid⟩
    exact ⟨c, ⟨i, hc, hi⟩, hid⟩
  · rintro ⟨c, ⟨i, hc, hi⟩, hid⟩
    exact ⟨c, i, hc, hi, hid⟩

/-- No identifier is taken where the node **does not clash** with those that stay. -/
theorem taken_eq_none {replaced : Option Nat} :
    f.taken n replaced = none ↔ ¬n.Clashes (f.others replaced) := by
  rw [Option.eq_none_iff_forall_ne_some, Clashes, not_exists]
  exact forall_congr' fun id => not_congr taken_eq_some

/-- **A push** appends a node that clashes with none. -/
theorem push_eq_ok : f.push n = .ok g ↔
    ¬n.Clashes f.contents ∧ g = { f with contents := f.contents ++ [n] } := by
  have hnone : f.taken n none = none ↔ ¬n.Clashes f.contents := taken_eq_none
  rw [push, ← hnone]
  cases f.taken n none <;> simp [eq_comm]

/-- **A push fails** if the node has the identifier of a child. -/
theorem push_eq_error : f.push n = .error e ↔
    ∃ id, n.id? = some id ∧ id ∈ ids f.contents ∧ e = .duplicateId id := by
  have hsome : ∀ id, f.taken n none = some id ↔ n.id? = some id ∧ id ∈ ids f.contents :=
    fun id => taken_eq_some
  simp only [← and_assoc, ← hsome, push]
  cases f.taken n none <;> simp [eq_comm]

/-- **Setting** puts a node in the place of the child under the key, or behind all, if it clashes with
none that stays. -/
theorem set_eq_ok : f.set key n = .ok g ↔ ¬n.Clashes (f.others (f.index? key)) ∧
    g = { f with contents := match f.index? key with
      | some i => f.contents.set i n
      | none => f.contents ++ [n] } := by
  rw [set]
  cases hindex : f.index? key with
  | none => exact push_eq_ok
  | some i =>
    simp only [← taken_eq_none]
    cases f.taken n (some i) <;> simp [eq_comm]

theorem others_sublist (f : Folder) : ∀ replaced, (f.others replaced).Sublist f.contents
  | some _ => List.eraseIdx_sublist _ _
  | none => List.Sublist.refl _

/-- **Setting fails** if the node has the identifier of a child that stays. -/
theorem set_eq_error : f.set key n = .error e ↔
    ∃ id, n.id? = some id ∧ id ∈ ids (f.others (f.index? key)) ∧ e = .duplicateId id := by
  rw [set]
  cases hindex : f.index? key with
  | none => exact push_eq_error
  | some i =>
    simp only [← and_assoc, ← taken_eq_some]
    cases f.taken n (some i) <;> simp [eq_comm]

/-- Nodes **fit** behind the children if each clashes with none before it. -/
def Fits (f : Folder) (ns : List Node) : Prop :=
  ∀ before n after, ns = before ++ n :: after → ¬n.Clashes (f.contents ++ before)

/-- The first node fits behind the children, and the others **behind it**. -/
theorem fits_cons : f.Fits (n :: ns) ↔ ¬n.Clashes f.contents ∧
    ({ f with contents := f.contents ++ [n] } : Folder).Fits ns := by
  constructor
  · intro h
    refine ⟨by simpa using h [] n ns rfl, fun before m after heq => ?_⟩
    simpa using h (n :: before) m after (by rw [heq, List.cons_append])
  · rintro ⟨hn, hns⟩ before m after heq
    cases before with
    | nil =>
      obtain ⟨rfl, -⟩ := List.cons.inj heq
      simpa using hn
    | cons b before =>
      obtain ⟨rfl, htail⟩ := List.cons.inj heq
      simpa using hns before m after htail

/-- **Nodes that fit** are all appended. -/
theorem extend_of_fits : ∀ {ns : List Node} {f : Folder}, f.Fits ns →
    f.extend ns = ({ f with contents := f.contents ++ ns }, .ok ())
  | [], f, _ => by simp [extend]
  | n :: ns, f, h => by
    rw [fits_cons] at h
    rw [extend, push_eq_ok.mpr ⟨h.1, rfl⟩]
    simp only [extend_of_fits h.2, List.append_assoc, List.singleton_append]

/-- A node that **clashes** ends the extension: the nodes before it stay. -/
theorem extend_of_clash {before after : List Node} (hid : n.id? = some id) : ∀ {f : Folder},
    f.Fits before → id ∈ ids (f.contents ++ before) → f.extend (before ++ n :: after) =
      ({ f with contents := f.contents ++ before }, .error (.duplicateId id)) := by
  induction before with
  | nil =>
    intro f _ hmem
    rw [List.append_nil] at hmem
    rw [List.nil_append, extend, push_eq_error.mpr ⟨id, hid, hmem, rfl⟩, List.append_nil]
  | cons m before ih =>
    intro f hfits hmem
    rw [fits_cons] at hfits
    rw [List.cons_append, extend, push_eq_ok.mpr ⟨hfits.1, rfl⟩]
    have hrest := ih hfits.2 (by simpa using hmem)
    simp only [hrest, List.append_assoc, List.singleton_append]

/-- Nodes fit, or one of them is the **first that clashes**. -/
theorem fits_or_clash : ∀ (f : Folder) (ns : List Node), f.Fits ns ∨
    ∃ before n after, ns = before ++ n :: after ∧ f.Fits before ∧ n.Clashes (f.contents ++ before)
  | f, [] => Or.inl fun before n after heq => by simp at heq
  | f, n :: ns => by
    by_cases hn : n.Clashes f.contents
    · exact Or.inr ⟨[], n, ns, rfl, fun before n after heq => by simp at heq, by simpa using hn⟩
    · rcases fits_or_clash { f with contents := f.contents ++ [n] } ns with
        hns | ⟨before, m, after, rfl, hfits, hclash⟩
      · exact Or.inl (fits_cons.mpr ⟨hn, hns⟩)
      · exact Or.inr ⟨n :: before, m, after, rfl, fits_cons.mpr ⟨hn, hfits⟩, by simpa using hclash⟩

/-- **An extension fails** at the first node that clashes, and keeps those before it. -/
theorem extend_eq_error : f.extend ns = (g, .error e) ↔ ∃ before n after id,
    ns = before ++ n :: after ∧ f.Fits before ∧ n.id? = some id ∧ id ∈ ids (f.contents ++ before) ∧
      e = .duplicateId id ∧ g = { f with contents := f.contents ++ before } := by
  constructor
  · intro h
    rcases fits_or_clash f ns with hfits | ⟨before, n, after, rfl, hfits, id, hid, hmem⟩
    · simp [extend_of_fits hfits] at h
    · obtain ⟨rfl, he⟩ := Prod.mk.inj ((extend_of_clash hid hfits hmem).symm.trans h)
      exact ⟨before, n, after, id, rfl, hfits, hid, hmem, (Except.error.inj he).symm, rfl⟩
  · rintro ⟨before, n, after, id, rfl, hfits, hid, hmem, rfl, rfl⟩
    exact extend_of_clash hid hfits hmem

/-! ## Edits -/

/-- An **edit** of the children of a folder. -/
inductive Edit where
  | set (key : String) (node : Node)
  | push (node : Node)
  | extend (nodes : List Node)

namespace Edit

/-- The nodes an edit brings along. -/
def nodes : Edit → List Node
  | .set _ node => [node]
  | .push node => [node]
  | .extend nodes => nodes

/-- What an edit leaves of a folder, and its answer. -/
def run : Edit → Folder → Folder × Except Error Unit
  | .set key node, f =>
    match f.set key node with
    | .ok g => (g, .ok ())
    | .error e => (f, .error e)
  | .push node, f =>
    match f.push node with
    | .ok g => (g, .ok ())
    | .error e => (f, .error e)
  | .extend nodes, f => f.extend nodes

/-- The edit in the folder that **keys lead to**. -/
def runAt (edit : Edit) (keys : List String) (f : Folder) : Folder × Except Error Unit :=
  f.change edit.run keys

/-- **An edit** changes the children alone. -/
theorem run_keeps (edit : Edit) (f : Folder) :
    (edit.run f).1.id = f.id ∧ (edit.run f).1.name = f.name := by
  cases edit with
  | set key node =>
    cases h : f.set key node with
    | error e => simp [run, h]
    | ok g =>
      obtain ⟨-, rfl⟩ := set_eq_ok.mp h
      simp [run, h]
  | push node =>
    cases h : f.push node with
    | error e => simp [run, h]
    | ok g =>
      obtain ⟨-, rfl⟩ := push_eq_ok.mp h
      simp [run, h]
  | extend nodes =>
    rcases fits_or_clash f nodes with hfits | ⟨before, n, after, rfl, hfits, id, hid, hmem⟩
    · simp [run, extend_of_fits hfits]
    · simp [run, extend_of_clash hid hfits hmem]

end Edit

/-! ## Following keys -/

/-- Every position a key addresses is **that of a child**. -/
theorem index?_lt {i : Nat} (h : f.index? key = some i) : i < f.contents.length := by
  rw [index?] at h
  cases hid : f.contents.findIdx? (fun n => n.id? == some key) with
  | some j =>
    simp only [hid, Option.some.injEq] at h
    subst h
    exact (List.findIdx?_eq_some_iff_getElem.mp hid).1
  | none =>
    simp only [hid] at h
    exact (List.findIdx?_eq_some_iff_getElem.mp h).1

/-- **Setting** leaves the node and the children that stay. -/
theorem perm_of_set_eq_ok (h : f.set key n = .ok g) :
    g.contents.Perm (n :: f.others (f.index? key)) := by
  obtain ⟨-, rfl⟩ := set_eq_ok.mp h
  cases hindex : f.index? key with
  | none => exact List.perm_append_singleton n f.contents
  | some i => exact List.set_perm_cons_eraseIdx (index?_lt hindex) n

/-- **The child** that a key addresses is the folder at its position. -/
theorem child_eq_ok : f.child key = .ok g ↔
    ∃ i, f.index? key = some i ∧ f.contents[i]? = some g.toNode := by
  rw [child, get]
  cases hindex : f.index? key with
  | none => simp
  | some i =>
    have hlt := index?_lt hindex
    have hget := List.getElem?_eq_getElem hlt
    simp only [Option.bind_some, Option.some.injEq, exists_eq_left', hget, ← folder?_eq_some]
    cases f.contents[i].folder? <;> simp

/-- Where a child is replaced by one of the same identifier and name, keys address **the same
positions**. -/
theorem index?_set {i : Nat} {h : Folder} (hi : f.contents[i]? = some g.toNode)
    (hid : h.id = g.id) (hname : h.name = g.name) (key : String) :
    ({ f with contents := f.contents.set i h.toNode } : Folder).index? key = f.index? key := by
  obtain ⟨hlt, hget⟩ := List.getElem?_eq_some_iff.mp hi
  have hsame : ∀ {β : Type} (view : Node → β), view h.toNode = view g.toNode →
      (f.contents.set i h.toNode).map view = f.contents.map view := by
    intro β view hview
    rw [List.map_set, hview, ← hget, ← List.getElem_map view]
    exact List.set_getElem_self (by simpa using hlt)
  have hids := hsame Node.id? hid
  have hnames := hsame (fun n => n.name.static?) (congrArg Name.static? hname)
  have hfind : ∀ {β : Type} (view : Node → β) (p : β → Bool) (ns : List Node),
      ns.findIdx? (fun n => p (view n)) = (ns.map view).findIdx? p := by
    intro β view p ns
    rw [List.findIdx?_map]
    rfl
  simp only [index?]
  rw [hfind Node.id? (· == some key), hfind Node.id? (· == some key), hids,
    hfind (fun n => n.name.static?) (· == some key), hfind (fun n => n.name.static?) (· == some key),
    hnames]

section

variable {α : Type} {act : Folder → Folder × Except Error α} {keys : List String}

/-- A change behind a key **goes on** in the child under it. -/
theorem change_of_child {i : Nat} (hindex : f.index? key = some i)
    (hchild : f.contents[i]? = some g.toNode) : f.change act (key :: keys) =
      ({ f with contents := f.contents.set i (g.change act keys).1.toNode },
        (g.change act keys).2) := by
  have hindex' : f.index key = .ok i := by rw [index, hindex]
  have hchild' : f.child key = .ok g := child_eq_ok.mpr ⟨i, hindex, hchild⟩
  rw [change, hindex', hchild']

/-- Without a child folder under the key **nothing changes**. -/
theorem change_of_child_error (h : f.child key = .error e) :
    f.change act (key :: keys) = (f, .error e) := by
  rw [change, h]
  cases hindex : f.index? key with
  | none =>
    have he : Error.nodeNotFound key = e := by simpa [child, get, hindex] using h
    simp [index, hindex, he]
  | some i => simp [index, hindex]

/-- A change **keeps the identifier and the name** of a folder if it does so at its end. -/
theorem change_keeps (hact : ∀ g, (act g).1.id = g.id ∧ (act g).1.name = g.name) :
    ∀ (keys : List String) (f : Folder),
      (f.change act keys).1.id = f.id ∧ (f.change act keys).1.name = f.name
  | [], f => hact f
  | key :: keys, f => by
    cases hchild : f.child key with
    | error e => simp [change_of_child_error hchild]
    | ok g =>
      obtain ⟨i, hindex, hi⟩ := child_eq_ok.mp hchild
      simp [change_of_child hindex hi]

/-- **A change behind keys** answers what it answers in the folder they lead to, and leaves what it leaves
of that folder under the same keys. -/
theorem follow_change (hact : ∀ g, (act g).1.id = g.id ∧ (act g).1.name = g.name) :
    ∀ {keys : List String} {f g : Folder}, f.follow keys = .ok g →
      (f.change act keys).2 = (act g).2 ∧ (f.change act keys).1.follow keys = .ok (act g).1
  | [], f, g, h => by
    obtain rfl := Except.ok.inj h
    exact ⟨rfl, rfl⟩
  | key :: keys, f, g, h => by
    rw [follow] at h
    cases hchild : f.child key with
    | error e => simp [hchild] at h
    | ok c =>
      rw [hchild] at h
      obtain ⟨i, hindex, hi⟩ := child_eq_ok.mp hchild
      obtain ⟨hanswer, hfollow⟩ := follow_change hact h
      obtain ⟨hid, hname⟩ := change_keeps hact keys c
      have hlt := (List.getElem?_eq_some_iff.mp hi).1
      have hnext : ({ f with contents := f.contents.set i (c.change act keys).1.toNode } :
          Folder).child key = .ok (c.change act keys).1 :=
        child_eq_ok.mpr ⟨i, (index?_set hi hid hname key).trans hindex, List.getElem?_set_self hlt⟩
      rw [change_of_child hindex hi]
      refine ⟨hanswer, ?_⟩
      rw [follow, hnext]
      exact hfollow

/-- Keys that lead to **no folder** change nothing. -/
theorem change_of_follow_error : ∀ {keys : List String} {f : Folder},
    f.follow keys = .error e → f.change act keys = (f, .error e)
  | [], f, h => by simp [follow] at h
  | key :: keys, f, h => by
    rw [follow] at h
    cases hchild : f.child key with
    | error e' =>
      rw [hchild] at h
      obtain rfl := Except.error.inj h
      exact change_of_child_error hchild
    | ok c =>
      rw [hchild] at h
      obtain ⟨i, hindex, hi⟩ := child_eq_ok.mp hchild
      have hlt := (List.getElem?_eq_some_iff.mp hi).1
      have hget : f.contents[i] = c.toNode := (List.getElem?_eq_some_iff.mp hi).2
      rw [change_of_child hindex hi, change_of_follow_error h, ← hget, List.set_getElem_self]

/-- **A failure behind keys** leaves the whole folder as it was, if it leaves the folder at their end. -/
theorem change_of_error (hact : ∀ g e, (act g).2 = .error e → (act g).1 = g) :
    ∀ {keys : List String} {f : Folder},
      (f.change act keys).2 = .error e → (f.change act keys).1 = f
  | [], f, h => hact f e h
  | key :: keys, f, h => by
    cases hchild : f.child key with
    | error e' => rw [change_of_child_error hchild]
    | ok c =>
      obtain ⟨i, hindex, hi⟩ := child_eq_ok.mp hchild
      have hlt := (List.getElem?_eq_some_iff.mp hi).1
      have hget : f.contents[i] = c.toNode := (List.getElem?_eq_some_iff.mp hi).2
      rw [change_of_child hindex hi] at h ⊢
      rw [change_of_error hact h, ← hget, List.set_getElem_self]

end

/-! ## What edits come to -/

/-- A push **fails** where it is refused. -/
theorem Edit.run_push_eq_error : ((Edit.push n).run f).2 = .error e ↔ f.push n = .error e := by
  rw [run]
  cases f.push n <;> simp

/-- Setting **fails** where it is refused. -/
theorem Edit.run_set_eq_error : ((Edit.set key n).run f).2 = .error e ↔ f.set key n = .error e := by
  rw [run]
  cases f.set key n <;> simp

/-- A failed push leaves the folder **as it was**. -/
theorem Edit.run_push_of_error (h : ((Edit.push n).run f).2 = .error e) :
    ((Edit.push n).run f).1 = f := by
  rw [run, run_push_eq_error.mp h]

/-- A failed setting leaves the folder **as it was**. -/
theorem Edit.run_set_of_error (h : ((Edit.set key n).run f).2 = .error e) :
    ((Edit.set key n).run f).1 = f := by
  rw [run, run_set_eq_error.mp h]

/-- An extension **fails** at the first node that clashes; those before it are appended in order. -/
theorem Edit.run_extend_eq_error : ((Edit.extend ns).run f).2 = .error e ↔
    ∃ before n after id, ns = before ++ n :: after ∧ f.Fits before ∧ n.id? = some id ∧
      id ∈ ids (f.contents ++ before) ∧ e = .duplicateId id ∧
      ((Edit.extend ns).run f).1 = { f with contents := f.contents ++ before } := by
  rw [run]
  constructor
  · intro h
    exact extend_eq_error.mp (Prod.ext rfl h)
  · rintro ⟨before, n, after, id, hns, hfits, hid, hmem, he, hleft⟩
    rw [extend_eq_error.mpr ⟨before, n, after, id, hns, hfits, hid, hmem, he, rfl⟩]

end Folder

end Scaffold
