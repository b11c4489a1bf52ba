import Scaffold.Proofs.Node.Plan
import Scaffold.Proofs.Node.Steps

/-!
# Proofs/Node/Script — the steps of writing a layout

The **script** of a node lists the steps it takes from a disk on, each rendered on the disk it is
taken on (`materialize_eq_script`).  As long as rendering gives the same on all these disks, the
script is the one the plan spells out beforehand (`materialize_eq_steps`); where rendering does not
read the disk at all (`Diskless`), that is so of the script as a whole (`script_eq_steps`).
-/

namespace Scaffold

/-! ## The script of a node -/

namespace Node

mutual

/-- The **script** of a node: the steps of writing it to a disk. -/
def script (r : Renderer) (context : Context) (override : Option Path) (base : Path) :
    Disk → Node → List Step
  | d, .file _ name source =>
    match renderedFile r d context override base name source with
    | .error e => [.fail e]
    | .ok none => []
    | .ok (some (p, content)) => [.write p content]
  | d, .folder _ name contents =>
    match path r d context override base name with
    | .error e => [.fail e]
    | .ok none => []
    | .ok (some p) => .makeDirs p :: scriptAll r context p (d.makeDirs p).1 contents

/-- The steps of writing nodes below a path, one after the other. -/
def scriptAll (r : Renderer) (context : Context) (base : Path) : Disk → List Node → List Step
  | _, [] => []
  | d, n :: ns => script r context none base d n ++
      scriptAll r context base (Step.runAll d (script r context none base d n)).1 ns

end

/-- An answer with what it is **about** left out. -/
def outcome {α : Type} (x : Disk × Except Error α) : Disk × Except Error Unit :=
  (x.1, x.2.map fun _ => ())

@[simp] theorem outcome_fst {α : Type} (x : Disk × Except Error α) : (outcome x).1 = x.1 := rfl

mutual

/-- **Writing a node** takes the steps of its script. -/
theorem materialize_eq_script (r : Renderer) (context : Context) (override : Option Path)
    (base : Path) : ∀ (d : Disk) (n : Node), outcome (materialize r context override base d n) =
      Step.runAll d (script r context override base d n)
  | d, .file _ name source => by
    rw [materialize, script]
    rcases renderedFile r d context override base name source with e | _ | ⟨p, content⟩
    · rfl
    · rfl
    · simp only [Step.runAll, Step.run]
      cases d.writeFile p content.toBytes <;> rfl
  | d, .folder _ name contents => by
    rw [materialize, script]
    rcases path r d context override base name with e | _ | p
    · rfl
    · rfl
    · simp only [Step.runAll, Step.run]
      rcases hm : d.makeDirs p with ⟨d', fault | _⟩
      · rfl
      · have ih := materializeAll_eq_script r context p [] d' contents
        simp only [← ih]
        rcases materializeAll r context p [] d' contents with ⟨e, x | ts⟩ <;> rfl

/-- Writing several nodes takes the steps of their scripts. -/
theorem materializeAll_eq_script (r : Renderer) (context : Context) (base : Path) :
    ∀ (acc : Tree) (d : Disk) (ns : List Node),
      outcome (materializeAll r context base acc d ns) =
        Step.runAll d (scriptAll r context base d ns)
  | acc, d, [] => rfl
  | acc, d, n :: ns => by
    have ih := materialize_eq_script r context none base d n
    rw [materializeAll, scriptAll]
    rcases hm : materialize r context none base d n with ⟨d', x | t⟩
    · rw [hm] at ih
      rw [Step.runAll_append_error ih.symm]
      rfl
    · rw [hm] at ih
      rw [Step.runAll_append_ok ih.symm, ← ih]
      exact materializeAll_eq_script r context base _ d' ns

end

end Node

/-! ## The steps of a plan -/

namespace Plan

mutual

/-- The **steps** a plan spells out. -/
def steps : Plan → List Step
  | .skip => []
  | .fault e => [.fail e]
  | .file p content => [.write p content]
  | .folder p inside => .makeDirs p :: stepsAll inside

/-- The steps of plans, one after the other. -/
def stepsAll : List Plan → List Step
  | [] => []
  | x :: xs => steps x ++ stepsAll xs

end

end Plan

namespace Node

variable {r : Renderer} {context : Context} {override : Option Path} {base : Path} {d : Disk}

/-- The disks that taking some of the steps leads to, the first and the last **included**. -/
def Passes (d : Disk) (steps : List Step) (e : Disk) : Prop :=
  ∃ done, done <+: steps ∧ (Step.runAll d done).1 = e

theorem Passes.self (d : Disk) (steps : List Step) : Passes d steps d :=
  ⟨[], List.nil_prefix, rfl⟩

/-- What is passed by the first steps is passed. -/
theorem Passes.append_right {a : List Step} {e : Disk} (h : Passes d a e) (b : List Step) :
    Passes d (a ++ b) e := by
  obtain ⟨done, hdone, he⟩ := h
  exact ⟨done, hdone.trans (List.prefix_append a b), he⟩

/-- What is passed after steps that succeed is passed. -/
theorem Passes.append_left {a b : List Step} {d' e : Disk} (ha : Step.runAll d a = (d', .ok ()))
    (h : Passes d' b e) : Passes d (a ++ b) e := by
  obtain ⟨done, hdone, he⟩ := h
  exact ⟨a ++ done, (List.prefix_append_right_inj a).mpr hdone,
    by rw [Step.runAll_append_ok ha, he]⟩

/-- What is passed by writing what is in a folder, once that is **made**, is passed. -/
theorem Passes.inside {id : Option String} {name : Name} {contents : List Node} {p : Path}
    {d' e : Disk} (hp : path r d context override base name = .ok (some p))
    (hm : d.makeDirs p = (d', .ok ())) (h : Passes d' (scriptAll r context p d' contents) e) :
    Passes d (script r context override base d (.folder id name contents)) e := by
  have hfirst : Step.runAll d [.makeDirs p] = (d', .ok ()) := by
    simp only [Step.runAll, Step.run, hm]
  simpa [script, hp, hm] using h.append_left hfirst

/-- What is passed by writing the **first** of several nodes is passed. -/
theorem Passes.head {n : Node} {ns : List Node} {e : Disk}
    (h : Passes d (script r context none base d n) e) :
    Passes d (scriptAll r context base d (n :: ns)) e := by
  rw [scriptAll]
  exact h.append_right _

/-- What is passed by writing the **others** after the first is passed. -/
theorem Passes.tail {n : Node} {ns : List Node} {d' e : Disk}
    (hn : Step.runAll d (script r context none base d n) = (d', .ok ()))
    (h : Passes d' (scriptAll r context base d' ns) e) :
    Passes d (scriptAll r context base d (n :: ns)) e := by
  rw [scriptAll, hn]
  exact h.append_left hn

/-- Rendering stays **the same** on every disk that writing the node passes. -/
def Steady (r : Renderer) (context : Context) (override : Option Path) (base : Path) (d : Disk)
    (n : Node) : Prop :=
  ∀ e, Passes d (script r context override base d n) e →
    plan r e context override base n = plan r d context override base n

/-- Rendering several nodes stays the same. -/
def SteadyAll (r : Renderer) (context : Context) (base : Path) (d : Disk) (ns : List Node) : Prop :=
  ∀ e, Passes d (scriptAll r context base d ns) e →
    planAll r e context base ns = planAll r d context base ns

/-- Inside a steady folder rendering stays the same. -/
theorem Steady.inside {id : Option String} {name : Name} {contents : List Node} {p : Path}
    {d' : Disk} (hp : path r d context override base name = .ok (some p))
    (hm : d.makeDirs p = (d', .ok ()))
    (h : Steady r context override base d (.folder id name contents)) :
    planAll r d' context p contents = planAll r d context p contents ∧
      SteadyAll r context p d' contents := by
  have hsame : ∀ e, Passes d' (scriptAll r context p d' contents) e →
      planAll r e context p contents = planAll r d context p contents := fun e he => by
    have hplan := h e (he.inside hp hm)
    simp only [plan, hp] at hplan
    split at hplan
    · simp at hplan
    · simp at hplan
    · rw [Plan.folder.injEq] at hplan
      rw [← hplan.2, hplan.1]
  have hd' := hsame d' (Passes.self d' _)
  exact ⟨hd', fun e he => (hsame e he).trans hd'.symm⟩

/-- The first of several nodes is steady. -/
theorem SteadyAll.head {n : Node} {ns : List Node} (h : SteadyAll r context base d (n :: ns)) :
    Steady r context none base d n := fun e he => by
  have hplan := h e he.head
  rw [planAll, planAll, List.cons.injEq] at hplan
  exact hplan.1

/-- After the first of several nodes is written, rendering the others stays the same. -/
theorem SteadyAll.tail {n : Node} {ns : List Node} {d' : Disk}
    (h : SteadyAll r context base d (n :: ns))
    (hn : Step.runAll d (script r context none base d n) = (d', .ok ())) :
    planAll r d' context base ns = planAll r d context base ns ∧
      SteadyAll r context base d' ns := by
  have hsame : ∀ e, Passes d' (scriptAll r context base d' ns) e →
      planAll r e context base ns = planAll r d context base ns := fun e he => by
    have hplan := h e (he.tail hn)
    rw [planAll, planAll, List.cons.injEq] at hplan
    exact hplan.2
  have hd' := hsame d' (Passes.self d' _)
  exact ⟨hd', fun e he => (hsame e he).trans hd'.symm⟩

mutual

/-- **Where rendering stays the same**, writing a node takes the steps of its plan, and answers its
tree. -/
theorem materialize_eq_steps : ∀ {d : Disk} (n : Node) {override : Option Path} {base : Path},
    Steady r context override base d n → materialize r context override base d n =
      ((Step.runAll d (plan r d context override base n).steps).1,
        (Step.runAll d (plan r d context override base n).steps).2.map
          fun _ => (plan r d context override base n).tree)
  | d, .file _ name source, override, base, h => by
    rw [materialize, plan]
    rcases renderedFile r d context override base name source with e | _ | ⟨p, content⟩
    · rfl
    · rfl
    · simp only [Plan.steps, Step.runAll, Step.run]
      cases d.writeFile p content.toBytes <;> rfl
  | d, .folder _ name contents, override, base, h => by
    rw [materialize, plan]
    rcases hp : path r d context override base name with e | _ | p
    · rfl
    · rfl
    · simp only [Plan.steps, Step.runAll, Step.run]
      rcases hm : d.makeDirs p with ⟨d', fault | _⟩
      · rfl
      · obtain ⟨hplan, hinside⟩ := h.inside hp hm
        simp only [materializeAll_eq_steps contents [] hinside, hplan]
        rcases Step.runAll d' (Plan.stepsAll (planAll r d context p contents)) with ⟨e, y | _⟩
        · rfl
        · rfl

/-- Where rendering stays the same, writing several nodes takes the steps of their plans. -/
theorem materializeAll_eq_steps : ∀ {d : Disk} (ns : List Node) {base : Path} (acc : Tree),
    SteadyAll r context base d ns → materializeAll r context base acc d ns =
      ((Step.runAll d (Plan.stepsAll (planAll r d context base ns))).1,
        (Step.runAll d (Plan.stepsAll (planAll r d context base ns))).2.map
          fun _ => Plan.treeAll acc (planAll r d context base ns))
  | d, [], base, acc, h => rfl
  | d, n :: ns, base, acc, h => by
    have hn := materialize_eq_steps n h.head
    have hscript := materialize_eq_script r context none base d n
    rw [hn] at hscript
    rw [materializeAll, planAll, hn]
    simp only [Plan.stepsAll, Plan.treeAll]
    rcases hrun : Step.runAll d (plan r d context none base n).steps with ⟨d', x | _⟩
    · rw [Step.runAll_append_error hrun]
      rfl
    · rw [hrun] at hscript
      obtain ⟨hplan, hrest⟩ := h.tail hscript.symm
      rw [Step.runAll_append_ok hrun, ← hplan]
      exact materializeAll_eq_steps ns _ hrest

end

/-- A node that was written without a failure has taken **all steps** of its plan. -/
theorem runAll_of_materialize {n : Node} {t : Tree} (h : Steady r context override base d n)
    (hok : (materialize r context override base d n).2 = .ok t) :
    Step.runAll d (plan r d context override base n).steps =
      ((materialize r context override base d n).1, .ok ()) := by
  have hsteps := materialize_eq_steps n h
  rcases hrun : Step.runAll d (plan r d context override base n).steps with ⟨e, x | _⟩
  · rw [hsteps, hrun] at hok
    simp [Except.map] at hok
  · rw [hsteps, hrun]

/-- A node that was written without a failure answers the **tree** of its plan. -/
theorem tree_of_materialize {n : Node} {t : Tree} (h : Steady r context override base d n)
    (hok : (materialize r context override base d n).2 = .ok t) :
    (plan r d context override base n).tree = t := by
  have hrun := runAll_of_materialize h hok
  rw [materialize_eq_steps n h, hrun] at hok
  exact Except.ok.inj hok

/-! ## Without reading the disk -/

/-- Rendering the node does **not read the disk**: it comes to the same on all disks. -/
def Diskless (r : Renderer) (n : Node) : Prop :=
  ∀ (d d' : Disk) (context : Context) (override : Option Path) (base : Path),
    plan r d' context override base n = plan r d context override base n

/-- Where rendering does not read the disk it stays the same. -/
theorem Diskless.steady {n : Node} (h : Diskless r n) : Steady r context override base d n :=
  fun e _ => h d e context override base

mutual

/-- Where a node comes to the same on every disk its script is **known beforehand**: the steps of
its plan. -/
theorem script_eq_steps : ∀ {d : Disk} (n : Node) {override : Option Path} {base : Path},
    (∀ e, plan r e context override base n = plan r d context override base n) →
      script r context override base d n = (plan r d context override base n).steps
  | d, .file _ name source, override, base, _ => by
    rw [script, plan]
    rcases renderedFile r d context override base name source with e | _ | ⟨p, content⟩ <;> rfl
  | d, .folder _ name contents, override, base, h => by
    rw [script, plan]
    rcases hp : path r d context override base name with e | _ | p
    · rfl
    · rfl
    · have hinside : ∀ e, planAll r e context p contents = planAll r d context p contents :=
        fun e => by
          have hplan := h e
          simp only [plan, hp] at hplan
          split at hplan
          · simp at hplan
          · simp at hplan
          · rw [Plan.folder.injEq] at hplan
            rw [← hplan.2, hplan.1]
      have hnext : ∀ e, planAll r e context p contents =
          planAll r (d.makeDirs p).1 context p contents := fun e => by
        rw [hinside e, hinside (d.makeDirs p).1]
      simp only [Plan.steps]
      rw [scriptAll_eq_steps contents hnext, hinside]

/-- Where several nodes come to the same on every disk their scripts are the steps of their
plans. -/
theorem scriptAll_eq_steps : ∀ {d : Disk} (ns : List Node) {base : Path},
    (∀ e, planAll r e context base ns = planAll r d context base ns) →
      scriptAll r context base d ns = Plan.stepsAll (planAll r d context base ns)
  | d, [], base, _ => rfl
  | d, n :: ns, base, h => by
    simp only [planAll, List.cons.injEq] at h
    have hrest : ∀ e e', planAll r e' context base ns = planAll r e context base ns :=
      fun e e' => by rw [(h e').2, (h e).2]
    rw [scriptAll, planAll, Plan.stepsAll, script_eq_steps n fun e => (h e).1,
      scriptAll_eq_steps ns (hrest _), hrest d]

end

end Node

end Scaffold
