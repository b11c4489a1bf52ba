import Scaffold.Proofs.Node.Edits

/-!
# Proofs/Node/Addressed — the child that a key addresses

Where the identifiers of the children differ, a key addresses the child that has it as its identifier,
or else the first with it as its name (`index?_of_id`, `index?_of_static`).  Setting puts a node in the
place of that child alone (`set_of_index?`).  A node that has the key as its identifier is addressed by
it from then on, so another one that is set under the key takes its place (`get_of_set`, `set_of_set`).
Both together are `set_replaces_addressed`.
-/

namespace Scaffold

namespace Folder

open Node

variable {f g : Folder} {n m c : Node} {front back ns : List Node} {key : String}

/-! ## Positions -/

/-- The **first** element of a list with a property stands behind those without it. -/
theorem findIdx?_append_cons {α : Type} {p : α → Bool} {c : α} {front back : List α}
    (hfront : ∀ x ∈ front, p x = false) (hc : p c = true) :
    (front ++ c :: back).findIdx? p = some front.length := by
  rw [List.findIdx?_append, List.findIdx?_eq_none_iff.mpr hfront, List.findIdx?_cons, if_pos hc]
  simp

/-- A node whose identifier **is not among** those of others is none of them. -/
theorem id?_ne_of_not_mem (h : key ∉ ids ns) (hm : m ∈ ns) : m.id? ≠ some key := by
  intro hid
  exact h (List.mem_filterMap.mpr ⟨m, hm, hid⟩)

/-- **No identifier** is the key if none of the nodes is found by it. -/
theorem findIdx?_id?_of_not_mem (h : key ∉ ids ns) :
    ns.findIdx? (fun m => m.id? == some key) = none := by
  rw [List.findIdx?_eq_none_iff]
  intro m hm
  rw [beq_eq_false_iff_ne]
  exact id?_ne_of_not_mem h hm

/-- **An identifier** addresses the child that has it. -/
theorem index?_of_id (hids : (ids f.contents).Nodup) (hf : f.contents = front ++ c :: back)
    (hid : c.id? = some key) : f.index? key = some front.length := by
  have hfront : key ∉ ids front := by
    rw [hf, ids, List.filterMap_append, List.filterMap_cons_some hid, List.nodup_append] at hids
    intro hmem
    exact hids.2.2 key hmem key List.mem_cons_self rfl
  have hfind : f.contents.findIdx? (fun m => m.id? == some key) = some front.length := by
    rw [hf]
    refine findIdx?_append_cons ?_ (beq_iff_eq.mpr hid)
    intro m hm
    exact beq_eq_false_iff_ne.mpr (id?_ne_of_not_mem hfront hm)
  rw [index?, hfind]

/-- Where it is no identifier, **a name** addresses the first child that has it. -/
theorem index?_of_static (hnone : key ∉ ids f.contents) (hf : f.contents = front ++ c :: back)
    (hfirst : ∀ m ∈ front, m.name.static? ≠ some key) (hname : c.name.static? = some key) :
    f.index? key = some front.length := by
  rw [index?, findIdx?_id?_of_not_mem hnone, hf]
  refine findIdx?_append_cons ?_ (beq_iff_eq.mpr hname)
  intro m hm
  exact beq_eq_false_iff_ne.mpr (hfirst m hm)

/-- A key that is neither an identifier nor a name addresses **nothing**. -/
theorem index?_of_unknown (hnone : key ∉ ids f.contents)
    (hnames : ∀ m ∈ f.contents, m.name.static? ≠ some key) : f.index? key = none := by
  rw [index?, findIdx?_id?_of_not_mem hnone]
  refine List.findIdx?_eq_none_iff.mpr ?_
  intro m hm
  exact beq_eq_false_iff_ne.mpr (hnames m hm)

/-! ## Setting -/

/-- **Setting** puts the node in the place of the child that is addressed. -/
theorem set_of_index? (hf : f.contents = front ++ c :: back)
    (hindex : f.index? key = some front.length) (h : f.set key n = .ok g) :
    g = { f with contents := front ++ n :: back } := by
  obtain ⟨-, rfl⟩ := set_eq_ok.mp h
  rw [hindex, hf]
  simp

/-- Setting keeps the identifiers **different**. -/
theorem nodup_ids_of_set (hids : (ids f.contents).Nodup) (h : f.set key n = .ok g) :
    (ids g.contents).Nodup :=
  nodup_ids_join hids (perm_of_set_eq_ok h) (others_sublist f _) (set_eq_ok.mp h).1

/-- Where the node has the key as its identifier, the key **goes on addressing** its place. -/
theorem index?_of_set (hids : (ids f.contents).Nodup) (h : f.set key n = .ok g)
    (hid : n.id? = some key) :
    g.index? key = some ((f.index? key).getD f.contents.length) := by
  have hg := nodup_ids_of_set hids h
  obtain ⟨-, rfl⟩ := set_eq_ok.mp h
  cases hindex : f.index? key with
  | none =>
    rw [hindex] at hg
    exact index?_of_id hg rfl hid
  | some i =>
    rw [hindex] at hg
    have hlt := index?_lt hindex
    have hplace := index?_of_id hg (List.set_eq_take_append_cons_drop.trans (if_pos hlt)) hid
    rwa [List.length_take_of_le (Nat.le_of_lt hlt)] at hplace

/-- **The node** that was set under its identifier is the child under the key. -/
theorem get_of_set (hids : (ids f.contents).Nodup) (h : f.set key n = .ok g)
    (hid : n.id? = some key) : g.get key = .ok n := by
  have hplace := index?_of_set hids h hid
  obtain ⟨-, rfl⟩ := set_eq_ok.mp h
  rw [get, hplace, Option.bind_some]
  cases hindex : f.index? key with
  | none => simp
  | some i => simp [index?_lt hindex]

/-- Setting leaves **the same others** for another setting under the key. -/
theorem others_of_set (hids : (ids f.contents).Nodup) (h : f.set key n = .ok g)
    (hid : n.id? = some key) : g.others (g.index? key) = f.others (f.index? key) := by
  rw [index?_of_set hids h hid]
  obtain ⟨-, rfl⟩ := set_eq_ok.mp h
  cases hindex : f.index? key with
  | none => simp [others, List.eraseIdx_append_of_length_le]
  | some i => simp [others, List.eraseIdx_set_eq]

/-- **Setting twice** under the key that the first node has as its identifier is setting the second. -/
theorem set_of_set (hids : (ids f.contents).Nodup) (h : f.set key n = .ok g)
    (hid : n.id? = some key) (m : Node) : g.set key m = f.set key m := by
  have hothers := others_of_set hids h hid
  cases hset : f.set key m with
  | error e =>
    rw [set_eq_error] at hset ⊢
    rwa [hothers]
  | ok k =>
    rw [set_eq_ok] at hset ⊢
    refine ⟨hothers ▸ hset.1, ?_⟩
    obtain ⟨-, rfl⟩ := hset
    rw [index?_of_set hids h hid]
    obtain ⟨-, rfl⟩ := set_eq_ok.mp h
    cases hindex : f.index? key with
    | none => simp
    | some i => simp

/-- **Setting replaces one child.**  Where the identifiers of the children differ, a node that is set under
a key takes the place of the child that has the key as its identifier, or else of the first that has it
as its name; where there is none, it is appended.  All other children stay where they are and as they
are, and the identifiers go on differing.  A node whose identifier is the key is found under it then,
and setting another in its place is the same as setting that one at once. -/
theorem set_replaces_addressed (hids : (ids f.contents).Nodup) (h : f.set key n = .ok g) :
    (∀ front c back, f.contents = front ++ c :: back → c.id? = some key →
      g = { f with contents := front ++ n :: back }) ∧
    (key ∉ ids f.contents → ∀ front c back, f.contents = front ++ c :: back →
      (∀ m ∈ front, m.name.static? ≠ some key) → c.name.static? = some key →
      g = { f with contents := front ++ n :: back }) ∧
    (key ∉ ids f.contents → (∀ m ∈ f.contents, m.name.static? ≠ some key) →
      g = { f with contents := f.contents ++ [n] }) ∧
    (ids g.contents).Nodup ∧
    (n.id? = some key → g.get key = .ok n ∧ ∀ m, g.set key m = f.set key m) := by
  refine ⟨?_, ?_, ?_, nodup_ids_of_set hids h, ?_⟩
  · intro front c back hf hid
    exact set_of_index? hf (index?_of_id hids hf hid) h
  · intro hnone front c back hf hfirst hname
    exact set_of_index? hf (index?_of_static hnone hf hfirst hname) h
  · intro hnone hnames
    rw [set_eq_ok, index?_of_unknown hnone hnames] at h
    exact h.2
  · intro hid
    exact ⟨get_of_set hids h hid, set_of_set hids h hid⟩

/-- A folder with one file that has a key as its name and one that has it as its identifier. -/
def targets : Folder :=
  ⟨none, .literal "root", [.file none (.literal "target") (.text "by name"),
    .file (some "target") (.literal "other") (.text "by identifier")]⟩

/-- A file with an identifier and a name. -/
def replacement (id name : String) : Node := .file (some id) (.literal name) (.text "")

/-- The file with the identifier is replaced, and then its replacement. -/
theorem set_replaces_addressed_targets : (ids targets.contents).Nodup ∧
    ∃ g, targets.set "target" (replacement "target" "first") = .ok g ∧
      g.contents = [.file none (.literal "target") (.text "by name"), replacement "target" "first"] ∧
      g.get "target" = .ok (replacement "target" "first") ∧
      g.set "target" (replacement "target" "second") =
        targets.set "target" (replacement "target" "second") := by
  have hids : (ids targets.contents).Nodup := by decide
  have hset := set_eq_ok.mpr ⟨(by decide : ¬(replacement "target" "first").Clashes
    (targets.others (targets.index? "target"))), rfl⟩
  obtain ⟨hreplaced, -, -, -, hagain⟩ := set_replaces_addressed hids hset
  obtain ⟨hget, hsecond⟩ := hagain rfl
  refine ⟨hids, _, hset, ?_, hget, hsecond _⟩
  rw [hreplaced [_] _ [] rfl rfl]
  rfl

/-- A node without the key as its identifier **is not found** under it: the next one takes the place of
the file with the name. -/
example : ((targets.set "target" (replacement "first" "first")).bind fun g =>
    g.set "target" (replacement "second" "second")).map (fun h => ids h.contents) =
      .ok ["second", "first"] := rfl

end Folder

end Scaffold
