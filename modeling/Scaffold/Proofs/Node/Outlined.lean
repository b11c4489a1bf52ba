import Mathlib.Data.List.Basic
import Mathlib.Data.List.Perm.Basic
import Scaffold.Node.Outline

/-!
# Proofs/Node/Outlined — the outline lists the whole tree

An outline is read off the tree with the files of every folder before its folders (`Node.ordered`): it is
traversed depth first, and every node has one line, in front of which stands how deep it is
(`outline_eq`).  The order among siblings is that of a stable sort (`filesFirst_eq`), so the traversal has
the same nodes at the same depths as that of the tree itself (`traversal_ordered_perm`).  An outline fails
for the first name that does not resolve, and only for one (`outline_lists`).
-/

namespace Scaffold

/-- What a line of an outline **is about**: a node, and how deep it is. -/
structure Listed where
  depth : Nat
  isFolder : Bool
  id : Option String
  name : Name

namespace Listed

variable (r : Renderer) (d : Disk) (context : Option Context) (x : Listed)

/-- The **label**: the name as it is declared, or as it resolves in a context, if there is one. -/
def label : Except Error String :=
  match context with
  | none => .ok x.name.shown
  | some ctx => (x.name.resolve r d ctx).map (·.getD "<none>")

/-- The **description** of the node: its label, its kind, its identifier and its name as declared. -/
def description (label : String) : String :=
  label ++ " = " ++ (if x.isFolder then "Folder" else "File") ++ "(" ++
    (match x.id with | some s => "id: " ++ s ++ ", " | none => "") ++ "name: " ++ x.name.shown ++ ")"

/-- What stands **in front of** a description: nothing at the root, two spaces for each level below the
first elsewhere. -/
def margin : Nat → String
  | 0 => ""
  | depth + 1 => String.ofList (List.replicate (2 * depth) ' ') ++ "|- "

/-- The **line** of the node. -/
def line : Except Error String := (x.label r d context).map fun s => margin x.depth ++ x.description s

/-- The **lines** of nodes, or why the first of them has none. -/
def lines (xs : List Listed) : Except Error (List String) := xs.mapM (line r d context)

end Listed

/-! ## Lines below each other -/

namespace Text

/-- Lines, each on **a new line**. -/
def below : List String → String
  | [] => ""
  | s :: ss => "\n" ++ s ++ below ss

/-- Lines below more lines are **below all of them**. -/
theorem below_append : ∀ ss ts : List String, below (ss ++ ts) = below ss ++ below ts
  | [], _ => String.empty_append.symm
  | s :: ss, ts => by
    rw [List.cons_append, below, below, below_append ss ts]
    simp only [String.append_assoc]

/-- Lines are joined by writing each **below the one before**. -/
theorem join_cons (s : String) : ∀ ss : List String, join "\n" (s :: ss) = s ++ below ss
  | [] => by simp [join, joinWith, below]
  | t :: ts => by
    have ih := join_cons t ts
    rw [join, List.map_cons] at ih
    rw [join, List.map_cons, List.map_cons, joinWith, String.ofList_append, String.ofList_append, ih,
      below, String.ofList_toList, String.ofList_toList]
    simp only [String.append_assoc]

end Text

namespace Node

/-- Nodes with **files first**, in the order they are declared in. -/
def filesFirst (ns : List Node) : List Node := ns.mergeSort fun n m => !n.isFolder || m.isFolder

mutual

/-- A node with files before folders **on every level**. -/
def ordered : Node → Node
  | .file id name source => .file id name source
  | .folder id name contents => .folder id name (filesFirst (orderedAll contents))

/-- Nodes with files before folders on every level below them. -/
def orderedAll : List Node → List Node
  | [] => []
  | n :: ns => ordered n :: orderedAll ns

end

mutual

/-- A node and all below it, **depth first**, each with its depth. -/
def traversal (depth : Nat) : Node → List Listed
  | .file id name _ => [⟨depth, false, id, name⟩]
  | .folder id name contents => ⟨depth, true, id, name⟩ :: traversalAll (depth + 1) contents

/-- Nodes and all below them, depth first. -/
def traversalAll (depth : Nat) : List Node → List Listed
  | [] => []
  | n :: ns => traversal depth n ++ traversalAll depth ns

end

/-! ## Files first -/

section

variable {α : Type} {f : α → Bool}

/-- What is sorted by a mark has **what is not marked before what is**. -/
theorem eq_filter_append_of_pairwise : ∀ {l : List α}, l.Pairwise (fun a b => (!f a || f b) = true) →
    l = l.filter (!f ·) ++ l.filter f
  | [], _ => rfl
  | a :: l, h => by
    rw [List.pairwise_cons] at h
    have ih := eq_filter_append_of_pairwise h.2
    cases ha : f a with
    | false => simpa [List.filter_cons, ha] using ih
    | true =>
      have hall : ∀ b ∈ l, f b = true := fun b hb => by simpa [ha] using h.1 b hb
      have hnone : l.filter (!f ·) = [] := List.filter_eq_nil_iff.mpr fun b hb => by simp [hall b hb]
      simp [ha, hnone, List.filter_eq_self.mpr hall]

/-- **A stable sort** by a mark keeps the order of what is marked, and of what is not. -/
theorem mergeSort_eq_filter_append (l : List α) :
    l.mergeSort (fun a b => !f a || f b) = l.filter (!f ·) ++ l.filter f := by
  have htrans : ∀ a b c, (!f a || f b) = true → (!f b || f c) = true → (!f a || f c) = true := by
    intro a b c
    cases f a <;> cases f b <;> simp
  have htotal : ∀ a b, ((!f a || f b) || (!f b || f a)) = true := by
    intro a b
    cases f a <;> cases f b <;> rfl
  have hkeeps : ∀ p : α → Bool, (l.filter p).Pairwise (fun a b => (!f a || f b) = true) →
      (l.mergeSort fun a b => !f a || f b).filter p = l.filter p := by
    intro p hp
    have hsub := (List.sublist_mergeSort htrans htotal hp List.filter_sublist).filter p
    have hfilter : (l.filter p).filter p = l.filter p := by simp [List.filter_filter]
    rw [hfilter] at hsub
    exact (hsub.eq_of_length ((List.mergeSort_perm l _).filter p).length_eq.symm).symm
  have hunmarked : (l.filter (!f ·)).Pairwise (fun a b => (!f a || f b) = true) :=
    List.pairwise_of_forall_mem_list fun a ha b _ => by simp [List.of_mem_filter ha]
  have hmarked : (l.filter f).Pairwise (fun a b => (!f a || f b) = true) :=
    List.pairwise_of_forall_mem_list fun a _ b hb => by simp [List.of_mem_filter hb]
  rw [eq_filter_append_of_pairwise (List.pairwise_mergeSort htrans htotal l), hkeeps _ hunmarked,
    hkeeps _ hmarked]

end

/-- Files come **first**, and then the folders, each in the order they are declared in. -/
theorem filesFirst_eq (ns : List Node) :
    filesFirst ns = ns.filter (!·.isFolder) ++ ns.filter (·.isFolder) := mergeSort_eq_filter_append ns

/-- Putting files first below a node leaves it **what it is**. -/
theorem isFolder_ordered (n : Node) : n.ordered.isFolder = n.isFolder := by
  cases n with
  | file id name source => rw [ordered]
  | folder id name contents =>
    rw [ordered]
    rfl

/-- The traversal of nodes is that of **each of them**. -/
theorem traversalAll_eq_flatMap (depth : Nat) (ns : List Node) :
    traversalAll depth ns = ns.flatMap (traversal depth) := by
  induction ns with
  | nil => rfl
  | cons n ns ih => rw [traversalAll, ih, List.flatMap_cons]

/-- The traversal of nodes behind others is **behind that of the others**. -/
theorem traversalAll_append (depth : Nat) (ns ms : List Node) :
    traversalAll depth (ns ++ ms) = traversalAll depth ns ++ traversalAll depth ms := by
  simp only [traversalAll_eq_flatMap, List.flatMap_append]

mutual

/-- With files first, the tree has **the same nodes**, and as deep. -/
theorem traversal_ordered_perm : ∀ (depth : Nat) (n : Node),
    (n.ordered.traversal depth).Perm (n.traversal depth)
  | _, .file _ _ _ => by rw [ordered]
  | depth, .folder id name contents => by
    rw [ordered, traversal, traversal]
    refine List.Perm.cons _ (List.Perm.trans ?_ (traversalAll_orderedAll_perm (depth + 1) contents))
    rw [traversalAll_eq_flatMap, traversalAll_eq_flatMap]
    exact (List.mergeSort_perm _ _).flatMap_right _

/-- With files first below them, there are the same nodes, and as deep. -/
theorem traversalAll_orderedAll_perm : ∀ (depth : Nat) (ns : List Node),
    (traversalAll depth (orderedAll ns)).Perm (traversalAll depth ns)
  | _, [] => List.Perm.refl _
  | depth, n :: ns => by
    rw [orderedAll, traversalAll, traversalAll]
    exact (traversal_ordered_perm depth n).append (traversalAll_orderedAll_perm depth ns)

end

end Node

/-! ## Lines -/

namespace Listed

variable {r : Renderer} {d : Disk} {context : Option Context} {x : Listed} {xs ys : List Listed}

/-- Two texts **one after the other**, or why the first of them is not there. -/
def both : Except Error String → Except Error String → Except Error String
  | .error e, _ => .error e
  | _, .error e => .error e
  | .ok s, .ok t => .ok (s ++ t)

/-- The lines of nodes, each **on a new line**. -/
def text (r : Renderer) (d : Disk) (context : Option Context) (xs : List Listed) :
    Except Error String :=
  (lines r d context xs).map Text.below

/-- There are lines of nodes if there is a line of **the first** and there are lines of the others. -/
theorem lines_cons : lines r d context (x :: xs) =
    match x.line r d context, lines r d context xs with
    | .error e, _ => .error e
    | _, .error e => .error e
    | .ok s, .ok ss => .ok (s :: ss) := by
  rw [lines, List.mapM_cons, lines]
  cases x.line r d context with
  | error e => rfl
  | ok s => cases List.mapM (line r d context) xs <;> rfl

/-- There are no lines exactly if a node has none, and **the first** such node says why. -/
theorem lines_eq_error_iff {e : Error} : ∀ {xs : List Listed}, lines r d context xs = .error e ↔
    ∃ before x after, xs = before ++ x :: after ∧ (∀ y ∈ before, ∃ s, y.line r d context = .ok s) ∧
      x.line r d context = .error e
  | [] => by
    constructor
    · intro h
      cases h
    · rintro ⟨before, x, after, h, -, -⟩
      cases before <;> cases h
  | y :: ys => by
    have ih : lines r d context ys = .error e ↔ _ := lines_eq_error_iff
    rw [lines_cons]
    constructor
    · intro h
      cases hy : y.line r d context with
      | error e' =>
        rw [hy] at h
        cases h
        exact ⟨[], y, ys, rfl, List.forall_mem_nil _, hy⟩
      | ok s =>
        cases hys : lines r d context ys with
        | ok ss => rw [hy, hys] at h; cases h
        | error e' =>
          rw [hy, hys] at h
          cases h
          obtain ⟨before, x, after, rfl, hbefore, hx⟩ := ih.mp hys
          exact ⟨y :: before, x, after, rfl, List.forall_mem_cons.mpr ⟨⟨s, hy⟩, hbefore⟩, hx⟩
    · rintro ⟨before, x, after, h, hbefore, hx⟩
      cases before with
      | nil =>
        cases h
        rw [hx]
      | cons z before =>
        cases h
        obtain ⟨⟨s, hs⟩, hbefore⟩ := List.forall_mem_cons.mp hbefore
        rw [hs, ih.mpr ⟨before, x, after, rfl, hbefore, hx⟩]

/-- A node has no line exactly if there is a context and its name **does not resolve** in it. -/
theorem line_eq_error_iff {e : Error} : x.line r d context = .error e ↔
    ∃ ctx, context = some ctx ∧ x.name.resolve r d ctx = .error e := by
  rw [line]
  cases context with
  | none => simp [label, Except.map]
  | some ctx => cases hname : x.name.resolve r d ctx <;> simp [label, hname, Except.map]

/-- A node has a line exactly if its name **resolves**, where there is a context. -/
theorem exists_line_iff : (∃ s, x.line r d context = .ok s) ↔
    ∀ ctx, context = some ctx → ∃ s, x.name.resolve r d ctx = .ok s := by
  rw [line]
  cases context with
  | none => simp [label, Except.map]
  | some ctx => cases hname : x.name.resolve r d ctx <;> simp [label, hname, Except.map]

/-- The text of nodes is the line of **the first** and the text of the others. -/
theorem text_cons : text r d context (x :: xs) =
    both ((x.line r d context).map ("\n" ++ ·)) (text r d context xs) := by
  rw [text, lines_cons, text]
  cases x.line r d context <;> cases lines r d context xs <;> rfl

/-- The text of nodes is that of **the front** and that of the back. -/
theorem text_append : ∀ xs : List Listed, text r d context (xs ++ ys) =
    both (text r d context xs) (text r d context ys)
  | [] => by
    have hnil : text r d context [] = .ok "" := rfl
    rw [List.nil_append, hnil]
    cases text r d context ys <;> simp [both]
  | x :: xs => by
    rw [List.cons_append, text_cons, text_append xs, text_cons]
    cases x.line r d context <;> cases text r d context xs <;> cases text r d context ys <;>
      simp [both, Except.map, String.append_assoc]

/-- Texts on a new line are **equal only** if the texts are. -/
theorem map_newline_injective :
    Function.Injective (Except.map ("\n" ++ ·) : Except Error String → Except Error String)
  | .error _, .error _, h => by cases h; rfl
  | .ok s, .ok t, h => by
    have h' : "\n" ++ s = "\n" ++ t := by simpa [Except.map] using h
    rw [(String.append_right_inj "\n").mp h']
  | .ok _, .error _, h => by cases h
  | .error _, .ok _, h => by cases h

/-- The text of nodes, if there are any, is **their lines joined**, on a new line. -/
theorem text_cons_eq_join : text r d context (x :: xs) =
    ((lines r d context (x :: xs)).map (Text.join "\n")).map ("\n" ++ ·) := by
  rw [text, lines_cons]
  cases x.line r d context with
  | error e => rfl
  | ok s =>
    cases lines r d context xs with
    | error e => rfl
    | ok ss => simp only [Except.map, Text.join_cons, Text.below, String.append_assoc]

end Listed

namespace Node

variable {r : Renderer} {d : Disk} {context : Option Context}

/-- The line of a node is its **margin** and how it is described. -/
theorem line_eq (depth : Nat) (isFolder : Bool) (id : Option String) (name : Name) :
    Listed.line r d context ⟨depth, isFolder, id, name⟩ =
      (describe r d context (if isFolder then "Folder" else "File") id name).map
        (Listed.margin depth ++ ·) := by
  rw [Listed.line]
  cases context with
  | none => rfl
  | some ctx =>
    simp only [describe, Listed.label]
    cases name.resolve r d ctx <;> rfl

/-- What stands in front of a child is its **margin**, on a new line. -/
theorem branch_eq (depth : Nat) (text : String) :
    branch (2 * depth) text = "\n" ++ (Listed.margin (depth + 1) ++ text) := by
  rw [branch, Listed.margin]
  simp only [String.append_assoc]

mutual

/-- **The outline of a node** is its line and those of all below it. -/
theorem outline_eq : ∀ (n : Node) (depth : Nat),
    (outline r d context (2 * depth) n).map (fun s => "\n" ++ (Listed.margin depth ++ s)) =
      Listed.text r d context (n.ordered.traversal depth)
  | .file id name source, depth => by
    rw [outline, ordered, traversal, Listed.text_cons, line_eq, if_neg Bool.false_ne_true]
    cases describe r d context "File" id name with
    | error e => rfl
    | ok s => simp [Except.map, Listed.both, Listed.text, Listed.lines, Text.below, pure, Except.pure]
  | .folder id name contents, depth => by
    rw [outline, outlineAll_eq false contents depth, outlineAll_eq true contents depth, ordered,
      traversal, filesFirst_eq, traversalAll_append, Listed.text_cons, Listed.text_append, line_eq,
      if_pos rfl]
    simp only [beq_false, beq_true]
    cases describe r d context "Folder" id name with
    | error e => rfl
    | ok s =>
      cases Listed.text r d context
        (traversalAll (depth + 1) ((orderedAll contents).filter (!·.isFolder))) with
      | error e => rfl
      | ok files =>
        cases Listed.text r d context
          (traversalAll (depth + 1) ((orderedAll contents).filter (·.isFolder))) with
        | error e => rfl
        | ok folders => simp [Except.map, Listed.both, String.append_assoc]

/-- **The outline of the children of a kind** is the lines of these and of all below them. -/
theorem outlineAll_eq (folders : Bool) : ∀ (ns : List Node) (depth : Nat),
    outlineAll r d context (2 * depth) folders ns = Listed.text r d context
      (traversalAll (depth + 1) ((orderedAll ns).filter (·.isFolder == folders)))
  | [], depth => rfl
  | n :: ns, depth => by
    have ih := outlineAll_eq folders ns depth
    rw [outlineAll, orderedAll, List.filter_cons, isFolder_ordered]
    by_cases hn : n.isFolder = folders
    · rw [if_pos hn, if_pos (beq_iff_eq.mpr hn), ih, traversalAll, Listed.text_append,
        ← outline_eq n (depth + 1), Nat.mul_succ]
      simp only [branch_eq]
      cases outline r d context (2 * depth + 2) n with
      | error e => rfl
      | ok s =>
        cases Listed.text r d context
          (traversalAll (depth + 1) ((orderedAll ns).filter (·.isFolder == folders))) <;> rfl
    · rw [if_neg hn, if_neg (by simpa using hn), ih]

end

end Node

namespace Folder

/-- **The outline lists the whole tree, files first.**  It is the lines of the nodes of the tree, one
below the other, in the depth-first order of the tree with files before folders on every level; it fails
exactly if there is a context in which a name does not resolve, for the reason of the first such name in
that order; and this order has every node of the tree once, at its depth. -/
theorem outline_lists (f : Folder) (r : Renderer) (d : Disk) (context : Option Context) :
    f.outline r d context =
        (Listed.lines r d context (f.toNode.ordered.traversal 0)).map (Text.join "\n") ∧
      (∀ e, f.outline r d context = .error e ↔ ∃ ctx before x after, context = some ctx ∧
        f.toNode.ordered.traversal 0 = before ++ x :: after ∧
        (∀ y ∈ before, ∃ s, y.name.resolve r d ctx = .ok s) ∧ x.name.resolve r d ctx = .error e) ∧
      (f.toNode.ordered.traversal 0).Perm (f.toNode.traversal 0) := by
  have hlines : f.outline r d context =
      (Listed.lines r d context (f.toNode.ordered.traversal 0)).map (Text.join "\n") := by
    have htext : (f.outline r d context).map (fun s => "\n" ++ (Listed.margin 0 ++ s)) =
        Listed.text r d context (f.toNode.ordered.traversal 0) := Node.outline_eq f.toNode 0
    have hroot : f.toNode.ordered.traversal 0 = ⟨0, true, f.id, f.name⟩ ::
        Node.traversalAll 1 (Node.filesFirst (Node.orderedAll f.contents)) := by
      rw [toNode, Node.ordered, Node.traversal]
    rw [hroot, Listed.text_cons_eq_join, ← hroot] at htext
    refine Listed.map_newline_injective ?_
    simpa only [Listed.margin, String.empty_append] using htext
  refine ⟨hlines, fun e => ?_, Node.traversal_ordered_perm 0 f.toNode⟩
  have herror : f.outline r d context = .error e ↔
      Listed.lines r d context (f.toNode.ordered.traversal 0) = .error e := by
    rw [hlines]
    cases Listed.lines r d context (f.toNode.ordered.traversal 0) <;> simp [Except.map]
  rw [herror, Listed.lines_eq_error_iff]
  simp only [Listed.exists_line_iff, Listed.line_eq_error_iff]
  constructor
  · rintro ⟨before, x, after, htraversal, hbefore, ctx, hctx, hx⟩
    exact ⟨ctx, before, x, after, hctx, htraversal, fun y hy => hbefore y hy ctx hctx, hx⟩
  · rintro ⟨ctx, before, x, after, rfl, htraversal, hbefore, hx⟩
    refine ⟨before, x, after, htraversal, fun y hy ctx' hctx => ?_, ctx, rfl, hx⟩
    cases hctx
    exact hbefore y hy

/-- A folder with a file **behind** another folder. -/
def documented : Folder := ⟨none, .literal "root", [
  .folder (some "docs") (.literal "docs") [.file none (.literal "index.md") (.text "")],
  .file none (.literal "README.md") (.text "")]⟩

example : (documented.outline ⟨[]⟩ default none).toOption = some (Text.join "\n" [
    "\"root\" = Folder(name: \"root\")",
    "|- \"README.md\" = File(name: \"README.md\")",
    "|- \"docs\" = Folder(id: docs, name: \"docs\")",
    "  |- \"index.md\" = File(name: \"index.md\")"]) := by decide +kernel

end Folder

end Scaffold
