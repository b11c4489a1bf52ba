import Mathlib.Data.List.Nodup
import Scaffold.Proofs.Node.Reordered

/-!
# Proofs/Node/Reported — how often a comparison lists a path

A report lists the paths of all that is due, under whatever verdict, each as often as it is due
(`Due.paths_report_perm`).  So a path is in one of the lists, and once, exactly if nothing else is due at
its place; in a tidy plan nothing is (`Plan.nodup_due_of_tidy`).  But two nodes beside each other may
come to one path, and then the report lists it twice, and even under two verdicts
(`Node.verify_lists_doubled`).
-/

namespace Scaffold

namespace Report

/-- All paths of a report, **whatever it says** of them. -/
def paths (report : Report) : List Path := report.missing ++ report.errors ++ report.ok

/-- How often a report lists the place of a path, in its three lists **together**. -/
def occurrences (report : Report) (p : Path) : Nat :=
  report.missing.countP (·.sameAs p) + report.errors.countP (·.sameAs p) +
    report.ok.countP (·.sameAs p)

/-- A place is listed as often as its **components** are among those of the paths. -/
theorem occurrences_eq_count (report : Report) (p : Path) :
    report.occurrences p = (report.paths.map Path.components).count p.components := by
  have hsame : (· == p.components) ∘ Path.components = (·.sameAs p) :=
    funext fun q => by simp [Path.sameAs, Bool.beq_eq_decide_eq]
  rw [List.count, List.countP_map, hsame, paths, List.countP_append, List.countP_append, occurrences]

end Report

namespace Due

variable {d : Disk}

/-- **A report lists all that is due**, each as often as it is due, and nothing else. -/
theorem paths_report_perm (d : Disk) : ∀ xs : List Due, (report d xs).paths.Perm (xs.map path)
  | [] => List.Perm.nil
  | x :: xs => by
    have ih := paths_report_perm d xs
    have hcons : ∀ v, listed d v (x :: xs) =
        if x.verdict d = v then x.path :: listed d v xs else listed d v xs := fun v => by
      rw [listed, List.filter_cons]
      split <;> simp_all [listed]
    simp only [Report.paths, report] at ih ⊢
    rw [hcons, hcons, hcons, List.map_cons]
    cases x.verdict d with
    | missing => exact ih.cons _
    | differs => exact (List.perm_middle.append_right _).trans (ih.cons _)
    | sound => exact List.perm_middle.trans (ih.cons _)

/-- A report lists a place as often as something **is due** at it. -/
theorem occurrences_report (d : Disk) (xs : List Due) (p : Path) :
    (report d xs).occurrences p = ((xs.map path).map Path.components).count p.components := by
  rw [Report.occurrences_eq_count, ((paths_report_perm d xs).map _).count_eq]

end Due

/-! ## Tidy plans -/

namespace Plan

variable {x y : Plan} {xs : List Plan} {p q : Path}

/-- All that is due by a tidy plan is **below its path**, or at it. -/
theorem components_of_mem_due {y : Due} (htidy : x.Tidy) (hx : x.path? = some q) (hy : y ∈ x.due) :
    ∃ names : List String, y.path.components = q.components ++ names.map .name := by
  have hpath : y.step.path? = some y.path := by cases y <;> rfl
  obtain ⟨names, hplain, heq⟩ := below_of_tidy htidy hx _ (step_mem_steps hy) _ hpath
  exact ⟨names, by rw [heq, Path.components_joinAll hplain]⟩

/-- What is due by a plan about no path is **nothing**. -/
theorem due_of_path?_none : ∀ {x : Plan}, x.path? = none → x.due = []
  | .skip, _ => rfl
  | .fault _, _ => rfl

/-- All that is due by a tidy plan of a folder is below **its name** in the folder. -/
theorem exists_name_of_mem_due {y : Due} (hchild : Child p x) (htidy : x.Tidy) (hy : y ∈ x.due) :
    ∃ (name : String) (names : List String), x.path? = some (p.joinName name) ∧
      y.path.components = p.components ++ .name name :: names.map .name := by
  rcases hx : x.path? with _ | q
  · rw [due_of_path?_none hx] at hy
    exact absurd hy List.not_mem_nil
  · obtain ⟨name, hplain, rfl⟩ := hchild q hx
    obtain ⟨names, hnames⟩ := components_of_mem_due htidy hx hy
    exact ⟨name, names, rfl, by rw [hnames, Path.components_joinName hplain, List.append_assoc,
      List.singleton_append]⟩

/-- All that is due in a tidy folder is below **one of its plans**. -/
theorem exists_of_mem_dueAll {y : Due} : ∀ {xs : List Plan}, TidyAll p xs → y ∈ dueAll xs →
    ∃ x ∈ xs, ∃ (name : String) (names : List String), x.path? = some (p.joinName name) ∧
      y.path.components = p.components ++ .name name :: names.map .name
  | x :: xs, ⟨hchild, hx, hrest⟩, hy => by
    rcases List.mem_append.mp hy with hy | hy
    · exact ⟨x, List.mem_cons_self, exists_name_of_mem_due hchild hx hy⟩
    · obtain ⟨z, hz, hname⟩ := exists_of_mem_dueAll hrest hy
      exact ⟨z, List.mem_cons_of_mem _ hz, hname⟩

mutual

/-- **In a tidy plan** no two things are due at one place. -/
theorem pairwise_due_of_tidy : ∀ {x : Plan}, x.Tidy →
    x.due.Pairwise fun a b => a.path.components ≠ b.path.components
  | .skip, _ => List.Pairwise.nil
  | .fault _, _ => List.Pairwise.nil
  | .file _ _, _ => List.pairwise_singleton _ _
  | .folder p inside, ⟨hnodup, htidy⟩ => by
    rw [due, List.pairwise_append]
    refine ⟨pairwise_dueAll_of_tidy hnodup htidy, List.pairwise_singleton _ _, fun a ha b hb => ?_⟩
    obtain ⟨x, -, name, names, -, hcomponents⟩ := exists_of_mem_dueAll htidy ha
    rw [List.mem_singleton.mp hb, Due.path, hcomponents]
    simp

/-- In a tidy folder no two things are due at one place. -/
theorem pairwise_dueAll_of_tidy : ∀ {xs : List Plan} {p : Path}, (xs.filterMap path?).Nodup →
    TidyAll p xs → (dueAll xs).Pairwise fun a b => a.path.components ≠ b.path.components
  | [], _, _, _ => List.Pairwise.nil
  | x :: xs, p, hnodup, ⟨hchild, hx, hrest⟩ => by
    have hsub := (List.sublist_cons_self x xs).filterMap path?
    rw [dueAll, List.pairwise_append]
    refine ⟨pairwise_due_of_tidy hx, pairwise_dueAll_of_tidy (hnodup.sublist hsub) hrest,
      fun a ha b hb hsame => ?_⟩
    obtain ⟨name, names, hname, ha⟩ := exists_name_of_mem_due hchild hx ha
    obtain ⟨z, hz, other, others, hother, hb⟩ := exists_of_mem_dueAll hrest hb
    -- The paths part at the name of the plan.
    rw [ha, hb, List.append_cancel_left_eq, List.cons.injEq, Component.name.injEq] at hsame
    rw [← hsame.1] at hother
    exact path?_ne_of_nodup hnodup z hz _ hname hother

end

end Plan

/-! ## Comparing -/

namespace Node

variable {r : Renderer} {context : Context} {override : Option Path} {base : Path} {d : Disk}

/-- **How often a comparison lists a path.**  A report lists what is due by the plan and nothing else:
each place as often as something is due at it, whatever the verdicts.  So every expected path is in one
list, and once, exactly if no two things are due at one place, and that is so where the plan is tidy. -/
theorem verify_lists_once {n : Node} {report : Report}
    (h : verify r d context override base n = .ok report) :
    report.paths.Perm ((plan r d context override base n).due.map Due.path) ∧
    ((∀ p ∈ (plan r d context override base n).due.map Due.path, report.occurrences p = 1) ↔
      (((plan r d context override base n).due.map Due.path).map Path.components).Nodup) ∧
    ((plan r d context override base n).Tidy →
      ∀ p ∈ (plan r d context override base n).due.map Due.path, report.occurrences p = 1) := by
  rw [verify_eq_plan, Plan.answer_eq_ok] at h
  obtain ⟨-, rfl⟩ := h
  have honce : (∀ p ∈ (plan r d context override base n).due.map Due.path,
      (Due.report d (plan r d context override base n).due).occurrences p = 1) ↔
      (((plan r d context override base n).due.map Due.path).map Path.components).Nodup := by
    simp only [List.nodup_iff_count_eq_one, List.forall_mem_map, Due.occurrences_report]
  refine ⟨Due.paths_report_perm d _, honce, fun htidy => honce.mpr ?_⟩
  rw [List.map_map, List.Nodup, List.pairwise_map]
  exact Plan.pairwise_due_of_tidy htidy

/-- The sample folder with a file and a folder in it is listed with **each path once**. -/
theorem verify_lists_once_manual : ∃ report,
    verify bareRenderer (Disk.bare ["w"]) [] none ⟨"out"⟩ manual = .ok report ∧
    report.occurrences ⟨"out/docs/a"⟩ = 1 ∧ report.occurrences ⟨"out/docs/b/a"⟩ = 1 ∧
    report.occurrences ⟨"out/docs/b"⟩ = 1 ∧ report.occurrences ⟨"out/docs"⟩ = 1 := by
  have hok : (verify bareRenderer (Disk.bare ["w"]) [] none ⟨"out"⟩ manual).isOk = true := by
    decide +kernel
  obtain ⟨report, hreport⟩ := exists_of_isOk hok
  have honce := (verify_lists_once hreport).2.2 tidy_manual
  have hdue : (plan bareRenderer (Disk.bare ["w"]) [] none ⟨"out"⟩ manual).due.map Due.path =
      [⟨"out/docs/a"⟩, ⟨"out/docs/b/a"⟩, ⟨"out/docs/b"⟩, ⟨"out/docs"⟩] := rfl
  rw [hdue] at honce
  simp only [List.forall_mem_cons] at honce
  exact ⟨report, hreport, honce.1, honce.2.1, honce.2.2.1, honce.2.2.2.1⟩

/-- A report is known by the paths in **its three lists**. -/
theorem eq_ok_of_lists {x : Except Error Report} {missing errors ok : List Path}
    (h : x.toOption.map (fun report => (report.missing, report.errors, report.ok)) =
      some (missing, errors, ok)) : x = .ok ⟨missing, errors, ok⟩ := by
  cases x with
  | error e => simp [Except.toOption] at h
  | ok report =>
    obtain ⟨rfl, rfl, rfl⟩ : report.missing = missing ∧ report.errors = errors ∧ report.ok = ok := by
      simpa [Except.toOption] using h
    rfl

/-- Two files at one path are **listed twice**: as missing both of them on an empty disk, and under two
verdicts where one of them is there. -/
theorem verify_lists_doubled :
    verify bareRenderer (Disk.bare ["w"]) [] none ⟨"out"⟩ doubled =
      .ok ⟨[⟨"out/docs/a"⟩, ⟨"out/docs/a"⟩, ⟨"out/docs"⟩], [], []⟩ ∧
    verify bareRenderer (materialize bareRenderer [] none ⟨"out"⟩ (Disk.bare ["w"]) doubled).1 [] none
      ⟨"out"⟩ doubled = .ok ⟨[], [⟨"out/docs/a"⟩, ⟨"out/docs"⟩], [⟨"out/docs/a"⟩]⟩ ∧
    Report.occurrences ⟨[], [⟨"out/docs/a"⟩, ⟨"out/docs"⟩], [⟨"out/docs/a"⟩]⟩ ⟨"out/docs/a"⟩ = 2 :=
  ⟨eq_ok_of_lists (by decide +kernel), eq_ok_of_lists (by decide +kernel), by decide +kernel⟩

end Node

end Scaffold
