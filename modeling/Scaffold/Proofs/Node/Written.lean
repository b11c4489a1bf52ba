import Scaffold.Proofs.Node.Agreement
import Scaffold.Proofs.Node.Placed
import Scaffold.Proofs.Node.Verdict

/-!
# Proofs/Node/Written — what was written is found again

A node that was written without a failure, no two files to one place, leaves behind all that is due
by its plan (`file_met_of_runAll`, `folder_met_of_runAll`).  Comparing it with the disk it was
written to finds every path sound, each folder after all that is in it (`verify_materialized`).
There is one exception: a folder whose path is empty is written without a failure, since there is
nothing to make, and found missing all the same (`verify_materialized_empty_path`).
-/

namespace Scaffold

/-! ## Empty paths -/

/-- Nothing is at the empty path. -/
theorem Disk.pathExists_of_isEmpty {d : Disk} {p : Path} (h : p.text.isEmpty = true) :
    d.pathExists p = false := by
  have hnil : p.text.toList.contains '\x00' = false := by
    rw [String.isEmpty_iff.mp h]
    rfl
  rw [pathExists, stat?, stat, walk, hnil, if_neg (by simp), if_pos h]
  rfl

namespace Node

variable {r : Renderer} {context : Context} {override : Option Path} {base : Path} {d e : Disk}

mutual

/-- Below a path that is not empty nothing is due at the empty path. -/
theorem due_isEmpty : ∀ {n : Node} {override : Option Path} {base : Path},
    base.text.isEmpty = false → ∀ y ∈ (plan r d context override base n).due,
      y.path.text.isEmpty = false
  | .file _ name source, override, base, hbase, y, hy => by
    rw [plan, renderedFile] at hy
    rcases hp : path r d context override base name with x | _ | p
    · simp [hp, Plan.due] at hy
    · simp [hp, Plan.due] at hy
    · rcases hs : source.render r d context with x | _ | content
      · simp [hp, hs, Except.map, Plan.due] at hy
      · simp [hp, hs, Except.map, Plan.due] at hy
      · obtain rfl : y = .file p content := by simpa [hp, hs, Except.map, Plan.due] using hy
        exact path_isEmpty hbase hp
  | .folder _ name contents, override, base, hbase, y, hy => by
    rw [plan] at hy
    rcases hp : path r d context override base name with x | _ | p
    · simp [hp, Plan.due] at hy
    · simp [hp, Plan.due] at hy
    · simp only [hp, Plan.due, List.mem_append, List.mem_singleton] at hy
      have hne := path_isEmpty hbase hp
      rcases hy with hy | rfl
      · exact dueAll_isEmpty hne y hy
      · exact hne

/-- Below a path that is not empty nothing is due at the empty path by several nodes. -/
theorem dueAll_isEmpty : ∀ {ns : List Node} {base : Path}, base.text.isEmpty = false →
    ∀ y ∈ Plan.dueAll (planAll r d context base ns), y.path.text.isEmpty = false
  | [], _, _, y, hy => absurd hy (by simp [planAll, Plan.dueAll])
  | n :: ns, base, hbase, y, hy => by
    rw [planAll, Plan.dueAll, List.mem_append] at hy
    rcases hy with hy | hy
    · exact due_isEmpty hbase y hy
    · exact dueAll_isEmpty hbase y hy

end

mutual

/-- Where all is **met** but the empty paths, all is sound but the empty paths: all that is due in a
folder is below its path. -/
theorem sound_of_met_nonempty : ∀ {n : Node} {override : Option Path} {base : Path},
    (∀ y ∈ (plan r d context override base n).due, y.path.text.isEmpty = false → y.Met e) →
      ∀ y ∈ (plan r d context override base n).due, y.path.text.isEmpty = false →
        y.verdict e = .sound
  | .file _ name source, override, base, h, y, hy, hne => by
    have hmet := h y hy hne
    rw [plan] at hy
    split at hy
    · simp [Plan.due] at hy
    · simp [Plan.due] at hy
    · next p content _ =>
      obtain rfl : y = .file p content := by simpa [Plan.due] using hy
      exact Due.verdict_eq_sound.mpr (Due.sound_file.mpr hmet)
  | .folder _ name contents, override, base, h, y, hy, hne => by
    rw [plan] at h hy
    rcases hp : path r d context override base name with x | _ | p
    · simp [hp, Plan.due] at hy
    · simp [hp, Plan.due] at hy
    · simp only [hp, Plan.due, List.mem_append, List.mem_singleton] at h hy
      have hinside := soundAll_of_met_nonempty fun z hz => h z (Or.inl hz)
      rcases hy with hy | rfl
      · exact hinside y hy hne
      · refine Due.verdict_eq_sound.mpr (Due.sound_folder.mpr ⟨h _ (Or.inr rfl) hne, ?_⟩)
        exact fun z hz => hinside z hz (dueAll_isEmpty hne z hz)

/-- Where all that is due by several nodes is met but the empty paths, all is sound but those. -/
theorem soundAll_of_met_nonempty : ∀ {ns : List Node} {base : Path},
    (∀ y ∈ Plan.dueAll (planAll r d context base ns), y.path.text.isEmpty = false → y.Met e) →
      ∀ y ∈ Plan.dueAll (planAll r d context base ns), y.path.text.isEmpty = false →
        y.verdict e = .sound
  | [], _, _, y, hy, _ => absurd hy (by simp [planAll, Plan.dueAll])
  | n :: ns, base, h, y, hy, hne => by
    rw [planAll, Plan.dueAll] at h hy
    simp only [List.mem_append] at h hy
    rcases hy with hy | hy
    · exact sound_of_met_nonempty (fun z hz => h z (Or.inl hz)) y hy hne
    · exact soundAll_of_met_nonempty (fun z hz => h z (Or.inr hz)) y hy hne

end

end Node

/-! ## What is due is written -/

/-- The step that brings about what is due. -/
def Due.step : Due → Step
  | .file p content => .write p content
  | .folder p _ => .makeDirs p

namespace Plan

mutual

/-- **All that is due** is brought about by a step of the plan. -/
theorem step_mem_steps : ∀ {x : Plan} {y : Due}, y ∈ x.due → y.step ∈ x.steps
  | .skip, y, hy => absurd hy (by simp [due])
  | .fault _, y, hy => absurd hy (by simp [due])
  | .file p content, y, hy => by
    obtain rfl : y = .file p content := by simpa [due] using hy
    exact List.mem_singleton_self _
  | .folder p inside, y, hy => by
    rw [due, List.mem_append, List.mem_singleton] at hy
    rcases hy with hy | rfl
    · exact List.mem_cons_of_mem _ (step_mem_stepsAll hy)
    · exact List.mem_cons_self

/-- All that is due by plans is brought about by a step of theirs. -/
theorem step_mem_stepsAll : ∀ {xs : List Plan} {y : Due}, y ∈ dueAll xs → y.step ∈ stepsAll xs
  | [], y, hy => absurd hy (by simp [dueAll])
  | x :: xs, y, hy => by
    rw [dueAll, List.mem_append] at hy
    rw [stepsAll, List.mem_append]
    exact hy.imp step_mem_steps step_mem_stepsAll

end

mutual

/-- The files that the steps write are the **files** of the plan. -/
theorem filterMap_steps : ∀ x : Plan, x.steps.filterMap Step.file? = x.files
  | .skip => rfl
  | .fault _ => rfl
  | .file _ _ => rfl
  | .folder p inside => by
    rw [files_folder, steps, ← filterMap_stepsAll inside]
    rfl

/-- The files that the steps of plans write are theirs. -/
theorem filterMap_stepsAll : ∀ xs : List Plan, (stepsAll xs).filterMap Step.file? = filesAll xs
  | [] => rfl
  | x :: xs => by
    rw [stepsAll, List.filterMap_append, filterMap_steps x, filterMap_stepsAll xs, filesAll_cons]

end

/-- After the steps of a plan have succeeded all its **files are met**, if no two have one place. -/
theorem file_met_of_runAll {x : Plan} {d e : Disk} (h : Step.runAll d x.steps = (e, .ok ()))
    (hfiles : (x.files.map fun f => d.place f.1).Nodup) {p : Path} {content : Content}
    (hy : .file p content ∈ x.due) : (Due.file p content).Met e := by
  rw [← filterMap_steps] at hfiles
  exact Step.readBytes_of_runAll h hfiles (step_mem_steps hy)

/-- After the steps of a plan have succeeded its **folders are met**, the empty paths apart. -/
theorem folder_met_of_runAll {x : Plan} {d e : Disk} (h : Step.runAll d x.steps = (e, .ok ()))
    {p : Path} {below : List Due} (hy : .folder p below ∈ x.due) (hne : p.text.isEmpty = false) :
    (Due.folder p below).Met e := Step.isDirectory_of_runAll hne h (step_mem_steps hy)

end Plan

/-! ## Comparing what was written -/

/-- Where all is sound but the empty paths, the report lists these as missing and the others as
sound. -/
theorem Due.report_of_sound {d : Disk} {xs : List Due}
    (h : ∀ y ∈ xs, y.path.text.isEmpty = false → y.verdict d = .sound) :
    report d xs = ⟨(xs.filter fun y => y.path.text.isEmpty).map path, [],
      (xs.filter fun y => !y.path.text.isEmpty).map path⟩ := by
  have hverdict : ∀ y ∈ xs, y.verdict d = if y.path.text.isEmpty then .missing else .sound := by
    intro y hy
    cases hempty : y.path.text.isEmpty with
    | true => exact verdict_eq_missing.mpr (Disk.pathExists_of_isEmpty hempty)
    | false => exact h y hy hempty
  -- Which verdict is listed depends on whether the path is empty, and on nothing else.
  have hlisted : ∀ (v : Verdict) (keep : Bool → Bool),
      (∀ b, decide ((if b = true then Verdict.missing else .sound) = v) = keep b) →
      listed d v xs = (xs.filter fun y => keep y.path.text.isEmpty).map path := by
    intro v keep hkeep
    rw [listed]
    refine congrArg (List.map path) (List.filter_congr fun y hy => ?_)
    rw [hverdict y hy, hkeep]
  rw [report, hlisted .missing id (by decide), hlisted .differs (fun _ => false) (by decide),
    hlisted .sound not (by decide), List.filter_false]
  rfl

namespace Node

variable {r : Renderer} {context : Context} {override : Option Path} {base : Path} {d : Disk}

/-- A file that is met has a path that is not empty. -/
theorem isEmpty_of_file_met {e : Disk} {p : Path} {content : Content}
    (h : (Due.file p content).Met e) : p.text.isEmpty = false := by
  have hthere : e.pathExists p = true := Disk.pathExists_of_readBytes h
  cases hempty : p.text.isEmpty with
  | false => rfl
  | true =>
    rw [Disk.pathExists_of_isEmpty hempty] at hthere
    simp at hthere

/-- A node **comes to the same** on the disk it was written to. -/
theorem plan_materialize {n : Node} (hind : Independent r context override base d n) :
    plan r (materialize r context override base d n).1 context override base n =
      plan r d context override base n := by
  have hscript := materialize_eq_script r context override base d n
  exact hind _ (near_of_passes ⟨_, List.prefix_refl _, (congrArg Prod.fst hscript).symm⟩)

/-- All that is due is **sound** on the disk a node was written to, the empty paths apart. -/
theorem sound_of_materialize {n : Node} {t : Tree} (hind : Independent r context override base d n)
    (hfiles : ((plan r d context override base n).files.map fun f => d.place f.1).Nodup)
    (hok : (materialize r context override base d n).2 = .ok t) :
    ∀ y ∈ (plan r d context override base n).due, y.path.text.isEmpty = false →
      y.verdict (materialize r context override base d n).1 = .sound := by
  have hrun := runAll_of_materialize hind.steady hok
  have hmet : ∀ y ∈ (plan r d context override base n).due, y.path.text.isEmpty = false →
      y.Met (materialize r context override base d n).1 := fun y hy hne => by
    cases y with
    | file p content => exact Plan.file_met_of_runAll hrun hfiles hy
    | folder p below => exact Plan.folder_met_of_runAll hrun hy hne
  rw [← plan_materialize hind] at hmet ⊢
  exact sound_of_met_nonempty hmet

/-- Only folders have an empty path on the disk a node was written to. -/
theorem isEmpty_of_materialize {n : Node} {t : Tree}
    (hind : Independent r context override base d n)
    (hfiles : ((plan r d context override base n).files.map fun f => d.place f.1).Nodup)
    (hok : (materialize r context override base d n).2 = .ok t)
    (hfolders : ∀ p below, .folder p below ∈ (plan r d context override base n).due →
      p.text.isEmpty = false) :
    ∀ y ∈ (plan r d context override base n).due, y.path.text.isEmpty = false
  | .file _ _, hy =>
    isEmpty_of_file_met (Plan.file_met_of_runAll (runAll_of_materialize hind.steady hok) hfiles hy)
  | .folder p below, hy => hfolders p below hy

/-- **What was written is found again.**  Comparing a node with the disk it was written to finds
every path sound, each folder after all that is in it, apart from folders with an empty path, which
are missing.  So all is sound exactly if no folder has an empty path. -/
theorem verify_materialized {n : Node} {t : Tree} (hind : Independent r context override base d n)
    (hfiles : ((plan r d context override base n).files.map fun f => d.place f.1).Nodup)
    (hok : (materialize r context override base d n).2 = .ok t) :
    verify r (materialize r context override base d n).1 context override base n = .ok
      ⟨((plan r d context override base n).due.filter fun y => y.path.text.isEmpty).map Due.path,
        [],
        ((plan r d context override base n).due.filter fun y => !y.path.text.isEmpty).map
          Due.path⟩ ∧
    (verify r (materialize r context override base d n).1 context override base n = .ok
        ⟨[], [], (plan r d context override base n).due.map Due.path⟩ ↔
      ∀ p below, .folder p below ∈ (plan r d context override base n).due →
        p.text.isEmpty = false) := by
  have hverify : verify r (materialize r context override base d n).1 context override base n = .ok
      ⟨((plan r d context override base n).due.filter fun y => y.path.text.isEmpty).map Due.path,
        [],
        ((plan r d context override base n).due.filter fun y => !y.path.text.isEmpty).map
          Due.path⟩ := by
    rw [verify_eq_plan, plan_materialize hind,
      Plan.fault?_of_runAll (runAll_of_materialize hind.steady hok), Plan.answer_none,
      Due.report_of_sound (sound_of_materialize hind hfiles hok)]
  refine ⟨hverify, ?_⟩
  rw [hverify, Except.ok.injEq, Report.mk.injEq]
  constructor
  · rintro ⟨hnone, -, -⟩ p below hy
    rw [List.map_eq_nil_iff, List.filter_eq_nil_iff] at hnone
    exact Bool.not_eq_true _ ▸ hnone _ hy
  · intro hfolders
    have hnonempty := isEmpty_of_materialize hind hfiles hok hfolders
    refine ⟨?_, rfl, ?_⟩
    · rw [List.map_eq_nil_iff, List.filter_eq_nil_iff]
      exact fun y hy => by simp [hnonempty y hy]
    · rw [List.filter_eq_self.mpr]
      exact fun y hy => by simp [hnonempty y hy]

/-- The file of the sample folder is found again, and then the folder. -/
theorem verify_materialized_readme :
    ((plan bareRenderer (Disk.bare ["w"]) [] none ⟨"out"⟩ readme).files.map fun f =>
      (Disk.bare ["w"]).place f.1).Nodup ∧
    verify bareRenderer (materialize bareRenderer [] none ⟨"out"⟩ (Disk.bare ["w"]) readme).1 []
      none ⟨"out"⟩ readme = .ok ⟨[], [], [⟨"out/docs/README"⟩, ⟨"out/docs"⟩]⟩ := by
  have hfiles : ((plan bareRenderer (Disk.bare ["w"]) [] none ⟨"out"⟩ readme).files.map fun f =>
      (Disk.bare ["w"]).place f.1).Nodup := by decide +kernel
  have hdue : (plan bareRenderer (Disk.bare ["w"]) [] none ⟨"out"⟩ readme).due.map Due.path =
      [⟨"out/docs/README"⟩, ⟨"out/docs"⟩] := by decide +kernel
  have hok : (materialize bareRenderer [] none ⟨"out"⟩ (Disk.bare ["w"]) readme).2.isOk = true := by
    decide +kernel
  have hind : Independent bareRenderer [] none ⟨"out"⟩ (Disk.bare ["w"]) readme :=
    independent_of_embedded isEmbedded_bareRenderer fun p hp => absurd hp List.not_mem_nil
  rcases hm : (materialize bareRenderer [] none ⟨"out"⟩ (Disk.bare ["w"]) readme).2 with x | t
  · rw [hm] at hok
    simp [Except.isOk, Except.toBool] at hok
  · refine ⟨hfiles, ?_⟩
    rw [← hdue]
    refine (verify_materialized hind hfiles hm).2.mpr fun p below hy => ?_
    have hp : p ∈ [(⟨"out/docs/README"⟩ : Path), ⟨"out/docs"⟩] :=
      hdue ▸ List.mem_map_of_mem hy
    rcases List.mem_cons.mp hp with rfl | hp
    · rfl
    · obtain rfl := List.mem_singleton.mp hp
      rfl

/-- A folder **without a name**. -/
def nameless : Node :=
  .folder none (.literal "") [.file none (.literal "a.txt") (.text "x")]

/-- A nameless folder in the working directory is written without a failure, and missing
afterwards. -/
theorem verify_materialized_empty_path :
    Independent bareRenderer [] none ⟨""⟩ (Disk.bare ["w"]) nameless ∧
    ((plan bareRenderer (Disk.bare ["w"]) [] none ⟨""⟩ nameless).files.map fun f =>
      (Disk.bare ["w"]).place f.1).Nodup ∧
    (materialize bareRenderer [] none ⟨""⟩ (Disk.bare ["w"]) nameless).2.isOk = true ∧
    (verify bareRenderer (materialize bareRenderer [] none ⟨""⟩ (Disk.bare ["w"]) nameless).1 []
      none ⟨""⟩ nameless).toOption.map (fun report => (report.missing, report.errors, report.ok)) =
        some ([⟨""⟩], [], [⟨"a.txt"⟩]) :=
  ⟨independent_of_embedded isEmbedded_bareRenderer fun p hp => absurd hp List.not_mem_nil,
    by decide +kernel, by decide +kernel, by decide +kernel⟩

end Node

end Scaffold
