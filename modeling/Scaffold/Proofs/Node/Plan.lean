import Scaffold.Node.Operations

/-!
# Proofs/Node/Plan — what a layout comes to on a disk

Resolving every name and rendering every content of a node gives its **plan** (`Node.plan`): the
files and folders to be there, the nodes that are skipped, and those that fail.  `preview` and
`verify` are readings of the plan alone: the first failure in it, or else its tree
(`preview_eq_plan`) or the report on all that is due (`verify_eq_plan`, in `Proofs/Node/Verdict`).
A plan is the same wherever all names and all sources come to the same (`plan_congr`), and nothing fails
where all of them do (`fault?_plan`).
-/

namespace Scaffold

/-- An answer that is no failure **is there**. -/
theorem exists_of_isOk {ε α : Type} {x : Except ε α} (h : x.isOk = true) : ∃ a, x = .ok a := by
  cases x with
  | error e => simp [Except.isOk, Except.toBool] at h
  | ok a => exact ⟨a, rfl⟩

/-- What a node **comes to**. -/
inductive Plan where
  /-- Without a path or a content there is nothing to do. -/
  | skip
  | fault (e : Error)
  | file (p : Path) (content : Content)
  | folder (p : Path) (inside : List Plan)

namespace Node

mutual

/-- The **plan** of a node: what it comes to on a disk. -/
def plan (r : Renderer) (d : Disk) (context : Context) (override : Option Path) (base : Path) :
    Node → Plan
  | .file _ name source =>
    match renderedFile r d context override base name source with
    | .error e => .fault e
    | .ok none => .skip
    | .ok (some (p, content)) => .file p content
  | .folder _ name contents =>
    match path r d context override base name with
    | .error e => .fault e
    | .ok none => .skip
    | .ok (some p) => .folder p (planAll r d context p contents)

/-- The plans of nodes below a path. -/
def planAll (r : Renderer) (d : Disk) (context : Context) (base : Path) : List Node → List Plan
  | [] => []
  | n :: ns => plan r d context none base n :: planAll r d context base ns

end

/-- The plans of nodes are the plans of **each of them**. -/
theorem planAll_eq_map (r : Renderer) (d : Disk) (context : Context) (base : Path) :
    ∀ ns : List Node, planAll r d context base ns = ns.map (plan r d context none base)
  | [] => rfl
  | n :: ns => by rw [planAll, planAll_eq_map r d context base ns, List.map_cons]

end Node

namespace Plan

/-! ## Failures -/

mutual

/-- The first **failure** of a plan, in the order of the nodes. -/
def fault? : Plan → Option Error
  | .skip => none
  | .fault e => some e
  | .file _ _ => none
  | .folder _ inside => faultAll? inside

/-- The first failure of plans. -/
def faultAll? : List Plan → Option Error
  | [] => none
  | x :: xs =>
    match fault? x with
    | some e => some e
    | none => faultAll? xs

end

/-- An answer, unless something has **failed**. -/
def answer {α : Type} (fault : Option Error) (a : α) : Except Error α :=
  match fault with
  | some e => .error e
  | none => .ok a

@[simp] theorem answer_some {α : Type} (e : Error) (a : α) : answer (some e) a = .error e := rfl

@[simp] theorem answer_none {α : Type} (a : α) : answer none a = .ok a := rfl

/-- There is an answer only if nothing has failed. -/
theorem answer_eq_ok {α : Type} {fault : Option Error} {a b : α} :
    answer fault a = .ok b ↔ fault = none ∧ a = b := by
  cases fault <;> simp [answer]

/-- The error is the failure. -/
theorem answer_eq_error {α : Type} {fault : Option Error} {a : α} {e : Error} :
    answer fault a = .error e ↔ fault = some e := by
  cases fault <;> simp [answer]

/-! ## What is rendered -/

mutual

/-- The **tree** of a plan. -/
def tree : Plan → Tree
  | .skip => []
  | .fault _ => []
  | .file p content => [(p, .file content)]
  | .folder p inside => [(p, .folder (treeAll [] inside))]

/-- The trees of plans, added to what is rendered. -/
def treeAll (acc : Tree) : List Plan → Tree
  | [] => acc
  | x :: xs => treeAll (acc.extend (tree x)) xs

end

/-- The **path** that a plan is about, if it is about one. -/
def path? : Plan → Option Path
  | .skip => none
  | .fault _ => none
  | .file p _ => some p
  | .folder p _ => some p

/-- The tree of a plan that is about no path is **empty**. -/
theorem tree_of_path?_none : ∀ {x : Plan}, x.path? = none → x.tree = []
  | .skip, _ => rfl
  | .fault _, _ => rfl

/-- The tree of a plan that is about a path has **one entry**, at the path. -/
theorem tree_of_path? : ∀ {x : Plan} {q : Path}, x.path? = some q → ∃ e, x.tree = [(q, e)]
  | .file p content, q, h => ⟨.file content, by rw [tree, ← Option.some.inj h]⟩
  | .folder p inside, q, h => ⟨.folder (treeAll [] inside), by rw [tree, ← Option.some.inj h]⟩

/-- Plans behind others **add to** what those come to. -/
theorem treeAll_append : ∀ (acc : Tree) (xs ys : List Plan),
    treeAll acc (xs ++ ys) = treeAll (treeAll acc xs) ys
  | _, [], _ => rfl
  | acc, x :: xs, ys => treeAll_append (acc.extend x.tree) xs ys

/-! ## What is due -/

end Plan

/-- What is **due** at a path: a file with its content, or a folder with all that is due in it. -/
inductive Due where
  | file (p : Path) (content : Content)
  | folder (p : Path) (below : List Due)

namespace Due

/-- The path. -/
def path : Due → Path
  | .file p _ => p
  | .folder p _ => p

/-- The path and content of a file. -/
def file? : Due → Option (Path × Content)
  | .file p content => some (p, content)
  | .folder _ _ => none

end Due

namespace Plan

mutual

/-- All that is **due** by a plan, a folder after all that is due in it. -/
def due : Plan → List Due
  | .skip => []
  | .fault _ => []
  | .file p content => [.file p content]
  | .folder p inside => dueAll inside ++ [.folder p (dueAll inside)]

/-- All that is due by plans. -/
def dueAll : List Plan → List Due
  | [] => []
  | x :: xs => due x ++ dueAll xs

end

/-- The **files** of a plan. -/
def files (x : Plan) : List (Path × Content) := x.due.filterMap Due.file?

/-- The files of plans. -/
def filesAll (xs : List Plan) : List (Path × Content) := (dueAll xs).filterMap Due.file?

@[simp] theorem files_folder (p : Path) (inside : List Plan) :
    (Plan.folder p inside).files = filesAll inside := by
  simp [files, filesAll, due, Due.file?]

@[simp] theorem filesAll_cons (x : Plan) (xs : List Plan) :
    filesAll (x :: xs) = x.files ++ filesAll xs := by simp [files, filesAll, dueAll]

end Plan

/-! ## Previewing -/

namespace Node

mutual

/-- **A preview** is the tree of the plan, unless something in the plan fails. -/
theorem preview_eq_plan (r : Renderer) (d : Disk) (context : Context) (override : Option Path)
    (base : Path) : ∀ n : Node, n.preview r d context override base =
      Plan.answer (n.plan r d context override base).fault? (n.plan r d context override base).tree
  | .file _ name source => by
    rw [preview, plan]
    rcases renderedFile r d context override base name source with e | _ | ⟨p, content⟩ <;> rfl
  | .folder _ name contents => by
    rw [preview, plan]
    rcases path r d context override base name with e | _ | p
    · rfl
    · rfl
    · simp only [Plan.fault?, Plan.tree, previewAll_eq_plan r d context p [] contents]
      cases Plan.faultAll? (planAll r d context p contents) <;> rfl

/-- Previews of several nodes are added up until the first failure. -/
theorem previewAll_eq_plan (r : Renderer) (d : Disk) (context : Context) (base : Path) :
    ∀ (acc : Tree) (ns : List Node), previewAll r d context base acc ns =
      Plan.answer (Plan.faultAll? (planAll r d context base ns))
        (Plan.treeAll acc (planAll r d context base ns))
  | acc, [] => rfl
  | acc, n :: ns => by
    rw [previewAll, planAll, Plan.faultAll?, Plan.treeAll, preview_eq_plan r d context none base n]
    cases Plan.fault? (plan r d context none base n) with
    | some e => rfl
    | none => exact previewAll_eq_plan r d context base _ ns

end

/-! ## What a plan depends on -/

mutual

/-- The **names** of a node and of all below it. -/
def names : Node → List Name
  | .file _ name _ => [name]
  | .folder _ name contents => name :: namesAll contents

/-- The names of nodes and of all below them. -/
def namesAll : List Node → List Name
  | [] => []
  | n :: ns => names n ++ namesAll ns

end

mutual

/-- The **sources** of the files of a node. -/
def sources : Node → List Source
  | .file _ _ source => [source]
  | .folder _ _ contents => sourcesAll contents

/-- The sources of the files of nodes. -/
def sourcesAll : List Node → List Source
  | [] => []
  | n :: ns => sources n ++ sourcesAll ns

end

section

variable {r : Renderer} {d d' : Disk} {context context' : Context} {override : Option Path} {base : Path}

/-- A name leads to the **same path** wherever it comes to the same. -/
theorem path_congr {name : Name}
    (h : override = none → name.resolve r d' context' = name.resolve r d context) :
    path r d' context' override base name = path r d context override base name := by
  cases override with
  | some p => rfl
  | none => rw [path, path, h rfl]

mutual

/-- A node comes to the **same** wherever all its names and all its sources do. -/
theorem plan_congr : ∀ {n : Node} {override : Option Path} {base : Path},
    (∀ name ∈ n.names, name.resolve r d' context' = name.resolve r d context) →
      (∀ s ∈ n.sources, s.render r d' context' = s.render r d context) →
        n.plan r d' context' override base = n.plan r d context override base
  | .file _ name source, override, base, hnames, hsources => by
    rw [plan, plan, renderedFile, renderedFile, path_congr fun _ => hnames name List.mem_cons_self,
      hsources source List.mem_cons_self]
  | .folder _ name contents, override, base, hnames, hsources => by
    rw [plan, plan, path_congr fun _ => hnames name List.mem_cons_self]
    rcases path r d context override base name with e | _ | p
    · rfl
    · rfl
    · have hinside : planAll r d' context' p contents = planAll r d context p contents :=
        planAll_congr (fun x hx => hnames x (List.mem_cons_of_mem _ hx)) hsources
      simp only [hinside]

/-- Nodes come to the **same** wherever all their names and all their sources do. -/
theorem planAll_congr : ∀ {ns : List Node} {base : Path},
    (∀ name ∈ namesAll ns, name.resolve r d' context' = name.resolve r d context) →
      (∀ s ∈ sourcesAll ns, s.render r d' context' = s.render r d context) →
        planAll r d' context' base ns = planAll r d context base ns
  | [], _, _, _ => rfl
  | n :: ns, base, hnames, hsources => by
    rw [namesAll, List.forall_mem_append] at hnames
    rw [sourcesAll, List.forall_mem_append] at hsources
    rw [planAll, planAll, plan_congr hnames.1 hsources.1, planAll_congr hnames.2 hsources.2]

end

/-- A path is found where the **name** comes to one. -/
theorem exists_path_of_isOk {name : Name} (h : (name.resolve r d context).isOk = true) :
    ∃ p, path r d context override base name = .ok p := by
  cases override with
  | some p => exact ⟨_, rfl⟩
  | none =>
    obtain ⟨s, hs⟩ := exists_of_isOk h
    rw [path, hs]
    exact ⟨_, rfl⟩

mutual

/-- A plan **fails** only where a name or a source does. -/
theorem fault?_plan : ∀ {n : Node} {override : Option Path} {base : Path},
    (∀ name ∈ n.names, (name.resolve r d context).isOk = true) →
      (∀ s ∈ n.sources, (s.render r d context).isOk = true) →
        (n.plan r d context override base).fault? = none
  | .file _ name source, override, base, hnames, hsources => by
    obtain ⟨p, hp⟩ : ∃ p, path r d context override base name = .ok p :=
      exists_path_of_isOk (hnames name List.mem_cons_self)
    obtain ⟨c, hc⟩ := exists_of_isOk (hsources source List.mem_cons_self)
    rw [plan, renderedFile, hp]
    cases p with
    | none => rfl
    | some p =>
      rw [hc]
      cases c <;> rfl
  | .folder _ name contents, override, base, hnames, hsources => by
    obtain ⟨p, hp⟩ : ∃ p, path r d context override base name = .ok p :=
      exists_path_of_isOk (hnames name List.mem_cons_self)
    rw [plan, hp]
    cases p with
    | none => rfl
    | some p => exact faultAll?_planAll (fun x hx => hnames x (List.mem_cons_of_mem _ hx)) hsources

/-- Plans **fail** only where a name or a source does. -/
theorem faultAll?_planAll : ∀ {ns : List Node} {base : Path},
    (∀ name ∈ namesAll ns, (name.resolve r d context).isOk = true) →
      (∀ s ∈ sourcesAll ns, (s.render r d context).isOk = true) →
        Plan.faultAll? (planAll r d context base ns) = none
  | [], _, _, _ => rfl
  | n :: ns, base, hnames, hsources => by
    rw [namesAll, List.forall_mem_append] at hnames
    rw [sourcesAll, List.forall_mem_append] at hsources
    rw [planAll, Plan.faultAll?, fault?_plan hnames.1 hsources.1]
    exact faultAll?_planAll hnames.2 hsources.2

end

end

end Node

end Scaffold
