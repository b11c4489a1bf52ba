import Scaffold.Proofs.Disk.Alike
import Scaffold.Proofs.Node.Written

/-!
# Proofs/Node/Repeated — writing a layout that is there

Steps that have succeeded have nothing left to make (`Step.settled_of_runAll`): taken again they
only write files that are there.  On the way the second run may hold what the first never held, where
several files go to one place; but at every location it holds what the first run held at the same
point, or at its end (`Step.runAll_again`), since the last write to a place decides.  So writing a
node a second time changes nothing, and neither does writing one that compares clean
(`Node.materialize_idempotent`).
-/

namespace Scaffold

namespace Step

variable {d d' e : Disk} {steps done : List Step}

/-! ## Steps with nothing to make -/

/-- The step has **nothing to make**: its directory is there, or the file that it writes. -/
def Settled (d : Disk) : Step → Prop
  | .makeDirs p => p.text.isEmpty = true ∨ d.isDirectory p = true
  | .write p _ => ∃ old, d.readBytes p = .ok old
  | .fail _ => False

/-- What was made **goes on** being there. -/
theorem Settled.of_grows (hg : d.Grows d') : ∀ {s : Step}, s.Settled d → s.Settled d'
  | .makeDirs _, h => h.imp_right (Disk.isDirectory_of_grows hg)
  | .write _ _, ⟨_, h⟩ => Disk.exists_readBytes_of_grows hg h

/-- A step that **has succeeded** has nothing left to make. -/
theorem settled_of_run : ∀ {s : Step}, s.run d = (d', .ok ()) → s.Settled d'
  | .makeDirs p, h => by
    cases hne : p.text.isEmpty with
    | true => exact Or.inl hne
    | false => exact Or.inr (Disk.isDirectory_of_makeDirs hne (makeDirs_of_run h))
  | .write p content, h => by
    have hw := writeFile_of_run h
    exact ⟨_, Disk.readBytes_of_writeFile hw (Disk.writeFile_grows hw)
      (Disk.writeFile_sets hw).look_self⟩

/-- **Steps that have succeeded** have nothing left to make. -/
theorem settled_of_runAll : ∀ {steps : List Step} {d : Disk}, runAll d steps = (e, .ok ()) →
    ∀ s ∈ steps, s.Settled e
  | s :: ss, d, h, x, hx => by
    obtain ⟨d', hs, hss⟩ := runAll_cons_eq_ok h
    rcases List.mem_cons.mp hx with rfl | hx
    · exact (settled_of_run hs).of_grows (grows_of_runAll hss)
    · exact settled_of_runAll hss x hx

/-- A step with nothing to make **succeeds**, and leaves everything but the place of the file that it
writes. -/
theorem Settled.run : ∀ {s : Step}, s.Settled d → ∃ d', s.run d = (d', .ok ()) ∧ ∀ loc,
    (∀ f, s.file? = some f → d.place f.1 ≠ loc) → d'.look loc = d.look loc
  | .makeDirs p, h => by
    have hm : d.makeDirs p = (d, .ok ()) := by
      rcases h with hempty | hdir
      · exact Disk.makeDirs_of_isEmpty hempty
      · exact Disk.makeDirs_of_isDirectory hdir
    exact ⟨d, by rw [Step.run, hm], fun _ _ => rfl⟩
  | .write p content, ⟨old, h⟩ => by
    obtain ⟨d', hw⟩ := Disk.exists_writeFile h content.toBytes
    refine ⟨d', by rw [Step.run, hw], fun loc hloc => ?_⟩
    exact (Disk.writeFile_sets hw).look_of_ne (Ne.symm (hloc (p, content) rfl))

/-- **Steps with nothing to make** succeed, and leave everything but the places of the files that
they write. -/
theorem runAll_of_settled : ∀ {steps : List Step} {d : Disk}, (∀ s ∈ steps, s.Settled d) →
    ∃ d', runAll d steps = (d', .ok ()) ∧ ∀ loc,
      (∀ f ∈ steps.filterMap file?, d.place f.1 ≠ loc) → d'.look loc = d.look loc
  | [], d, _ => ⟨d, rfl, fun _ _ => rfl⟩
  | s :: ss, d, h => by
    obtain ⟨d₁, hs, hlook⟩ := (h s List.mem_cons_self).run
    have hg : d.Grows d₁ := by
      have hrun := run_grows d s
      rwa [hs] at hrun
    obtain ⟨d₂, hss, hrest⟩ := runAll_of_settled fun x hx =>
      (h x (List.mem_cons_of_mem _ hx)).of_grows hg
    refine ⟨d₂, (runAll_cons_ok hs ss).trans hss, fun loc hother => ?_⟩
    have hfirst : ∀ f, s.file? = some f → d.place f.1 ≠ loc := fun f hf =>
      hother f (List.mem_filterMap.mpr ⟨s, List.mem_cons_self, hf⟩)
    refine (hrest loc fun f hf => ?_).trans (hlook loc hfirst)
    obtain ⟨x, hx, hxf⟩ := List.mem_filterMap.mp hf
    rw [Disk.place_congr hg.workDir]
    exact hother f (List.mem_filterMap.mpr ⟨x, List.mem_cons_of_mem _ hx, hxf⟩)

/-! ## The last write -/

/-- Either no file is written to a location, or one of them is written **last**. -/
theorem exists_last_write (d : Disk) (loc : Location) : ∀ steps : List Step,
    (∀ f ∈ steps.filterMap file?, d.place f.1 ≠ loc) ∨
      ∃ a p content b, steps = a ++ write p content :: b ∧ d.place p = loc ∧
        ∀ f ∈ b.filterMap file?, d.place f.1 ≠ loc
  | [] => Or.inl fun f hf => absurd hf (by simp)
  | s :: ss => by
    rcases exists_last_write d loc ss with hnone | ⟨a, p, content, b, rfl, hp, hlast⟩
    · by_cases hs : ∃ p content, s = write p content ∧ d.place p = loc
      · obtain ⟨p, content, rfl, hp⟩ := hs
        exact Or.inr ⟨[], p, content, ss, rfl, hp, hnone⟩
      · refine Or.inl fun f hf => ?_
        obtain ⟨x, hx, hxf⟩ := List.mem_filterMap.mp hf
        rcases List.mem_cons.mp hx with rfl | hx
        · cases x with
          | write p content =>
            obtain rfl : (p, content) = f := Option.some.inj hxf
            exact fun heq => hs ⟨p, content, rfl, heq⟩
          | makeDirs p => simp [file?] at hxf
          | fail x => simp [file?] at hxf
        · exact hnone f (List.mem_filterMap.mpr ⟨x, hx, hxf⟩)
    · exact Or.inr ⟨s :: a, p, content, b, rfl, hp, hlast⟩

/-- What was written **last** to a place stands there. -/
theorem look_of_last_write {a b : List Step} {p : Path} {content : Content}
    (h : runAll d (a ++ write p content :: b) = (e, .ok ()))
    (hlast : ∀ f ∈ b.filterMap file?, d.place f.1 ≠ d.place p) :
    e.look (d.place p) = some (.file content.toBytes) := by
  have hread := Disk.readBytes_iff.mp (readBytes_of_last_write h hlast)
  rw [← Disk.place_congr (grows_of_runAll h).workDir]
  exact (Disk.walk_place hread.2).1.look

/-! ## Taking steps again -/

/-- **Steps that have succeeded** succeed again on every larger disk that they have nothing to make
on, and leave at every location what stands there on it, or what they have left there before. -/
theorem runAll_again (h : runAll d done = (d', .ok ())) (hg : d.Grows e)
    (hsettled : ∀ s ∈ done, s.Settled e) : ∃ e', runAll e done = (e', .ok ()) ∧
      ∀ loc, e'.look loc = e.look loc ∨ e'.look loc = d'.look loc := by
  obtain ⟨e', he', hkeeps⟩ := runAll_of_settled hsettled
  refine ⟨e', he', fun loc => ?_⟩
  rcases exists_last_write d loc done with hnone | ⟨a, p, content, b, rfl, rfl, hlast⟩
  · refine Or.inl (hkeeps loc fun f hf => ?_)
    rw [Disk.place_congr hg.workDir]
    exact hnone f hf
  · right
    have hplace : ∀ q, e.place q = d.place q := fun q => Disk.place_congr hg.workDir q
    have hlook := look_of_last_write he' fun f hf => by
      rw [hplace, hplace]
      exact hlast f hf
    rw [look_of_last_write h hlast, ← hplace, hlook]

/-! ## Steps with nothing to do -/

/-- The step has **nothing to do**: its directory is there, or the file with its bytes. -/
def Idle (d : Disk) : Step → Prop
  | .makeDirs p => d.isDirectory p = true
  | .write p content => d.readBytes p = .ok content.toBytes
  | .fail _ => False

/-- A step with nothing to do has nothing to do on a disk that holds the same. -/
theorem Idle.of_alike (h : d.Alike d') : ∀ {s : Step}, s.Idle d → s.Idle d'
  | .makeDirs _, hs => Disk.isDirectory_of_grows h.grows hs
  | .write _ _, hs => Disk.readBytes_of_grows h.grows hs
      ((h.look _).trans (Disk.walk_place (Disk.readBytes_iff.mp hs).2).1.look)

/-- A step with nothing to do succeeds, and leaves a disk that **holds the same**. -/
theorem Idle.run : ∀ {s : Step}, s.Idle d → ∃ d', s.run d = (d', .ok ()) ∧ d.Alike d'
  | .makeDirs p, h =>
    ⟨d, by rw [Step.run, Disk.makeDirs_of_isDirectory h], Disk.Alike.refl d⟩
  | .write p content, h => by
    obtain ⟨d', hw⟩ := Disk.exists_writeFile h content.toBytes
    have hlook := (Disk.walk_place (Disk.readBytes_iff.mp h).2).1.look
    exact ⟨d', by rw [Step.run, hw], (Disk.writeFile_sets hw).alike hlook⟩

/-- **Steps with nothing to do** succeed, and leave a disk that holds the same. -/
theorem runAll_of_idle : ∀ {steps : List Step} {d : Disk}, (∀ s ∈ steps, s.Idle d) →
    ∃ d', runAll d steps = (d', .ok ()) ∧ d.Alike d'
  | [], d, _ => ⟨d, rfl, Disk.Alike.refl d⟩
  | s :: ss, d, h => by
    obtain ⟨d₁, hs, halike⟩ := (h s List.mem_cons_self).run
    obtain ⟨d₂, hss, hrest⟩ := runAll_of_idle fun x hx =>
      (h x (List.mem_cons_of_mem _ hx)).of_alike halike
    exact ⟨d₂, (runAll_cons_ok hs ss).trans hss, halike.trans hrest⟩

end Step

namespace Node

variable {r : Renderer} {context : Context} {override : Option Path} {base : Path} {d e : Disk}

/-! ## Scripts known beforehand -/

/-- What a folder comes to **inside**, where the folder comes to the same. -/
theorem planAll_of_plan {id : Option String} {name : Name} {contents : List Node} {p : Path}
    (hp : path r d context override base name = .ok (some p))
    (h : plan r e context override base (.folder id name contents) =
      plan r d context override base (.folder id name contents)) :
    planAll r e context p contents = planAll r d context p contents := by
  rw [plan, plan, hp] at h
  split at h
  · simp at h
  · simp at h
  · obtain ⟨hpath, hinside⟩ := Plan.folder.inj h
    rw [← hinside, hpath]

mutual

/-- Where the steps of the plan succeed, and the node comes to the same after all that script and
plan **begin with**, the script is the steps of the plan. -/
theorem script_eq_steps_of_runAll : ∀ {d e : Disk} (n : Node) {override : Option Path} {base : Path},
    Step.runAll d (plan r d context override base n).steps = (e, .ok ()) →
    (∀ done, done <+: script r context override base d n →
      done <+: (plan r d context override base n).steps →
      plan r (Step.runAll d done).1 context override base n =
        plan r d context override base n) →
    script r context override base d n = (plan r d context override base n).steps
  | d, e, .file _ name source, override, base, _, _ => by
    rw [script, plan]
    rcases renderedFile r d context override base name source with x | _ | ⟨p, content⟩ <;> rfl
  | d, e, .folder id name contents, override, base, hrun, h => by
    rcases hp : path r d context override base name with x | _ | p
    · rw [script, plan, hp]
      rfl
    · rw [script, plan, hp]
      rfl
    · have hplan : plan r d context override base (.folder id name contents) =
          .folder p (planAll r d context p contents) := by rw [plan, hp]
      have hscript : script r context override base d (.folder id name contents) =
          .makeDirs p :: scriptAll r context p (d.makeDirs p).1 contents := by rw [script, hp]
      rw [hplan, hscript, Plan.steps] at h
      rw [hplan, hscript, Plan.steps]
      rw [hplan, Plan.steps] at hrun
      obtain ⟨d', hs, hinside⟩ := Step.runAll_cons_eq_ok hrun
      have hmade := Step.makeDirs_of_run hs
      rw [hmade] at h ⊢
      -- After the directory is made, what is inside comes to the same as before.
      have hsame : ∀ done, done <+: scriptAll r context p d' contents →
          done <+: Plan.stepsAll (planAll r d context p contents) →
          planAll r (Step.runAll d' done).1 context p contents =
            planAll r d context p contents := fun done hfirst hsecond => by
        have hthere := h (.makeDirs p :: done) (List.cons_prefix_cons.mpr ⟨rfl, hfirst⟩)
          (List.cons_prefix_cons.mpr ⟨rfl, hsecond⟩)
        rw [Step.runAll_cons_ok hs, ← hplan] at hthere
        exact planAll_of_plan hp hthere
      have hstart := hsame [] List.nil_prefix List.nil_prefix
      simp only [Step.runAll] at hstart
      rw [← hstart] at hsame hinside ⊢
      rw [scriptAll_eq_steps_of_runAll contents hinside hsame]

/-- Where the steps of the plans succeed, and the nodes come to the same after all that scripts and
plans begin with, the scripts are the steps of the plans. -/
theorem scriptAll_eq_steps_of_runAll : ∀ {d e : Disk} (ns : List Node) {base : Path},
    Step.runAll d (Plan.stepsAll (planAll r d context base ns)) = (e, .ok ()) →
    (∀ done, done <+: scriptAll r context base d ns →
      done <+: Plan.stepsAll (planAll r d context base ns) →
      planAll r (Step.runAll d done).1 context base ns = planAll r d context base ns) →
    scriptAll r context base d ns = Plan.stepsAll (planAll r d context base ns)
  | d, e, [], base, _, _ => rfl
  | d, e, n :: ns, base, hrun, h => by
    simp only [scriptAll, planAll, Plan.stepsAll, List.cons.injEq] at h hrun ⊢
    obtain ⟨d', hn, hns⟩ := Step.runAll_append_eq_ok hrun
    have hfirst := script_eq_steps_of_runAll n hn fun done hscript hsteps =>
      (h done (hscript.trans (List.prefix_append _ _)) (hsteps.trans (List.prefix_append _ _))).1
    rw [hfirst, hn] at h ⊢
    -- After the first node is written, the others come to the same as before.
    have hsame : ∀ done, done <+: scriptAll r context base d' ns →
        done <+: Plan.stepsAll (planAll r d context base ns) →
        planAll r (Step.runAll d' done).1 context base ns = planAll r d context base ns :=
      fun done hscript hsteps => by
        have hthere := (h _ ((List.prefix_append_right_inj _).mpr hscript)
          ((List.prefix_append_right_inj _).mpr hsteps)).2
        rwa [Step.runAll_append_ok hn] at hthere
    have hstart := hsame [] List.nil_prefix List.nil_prefix
    simp only [Step.runAll] at hstart
    rw [← hstart] at hsame hns ⊢
    rw [scriptAll_eq_steps_of_runAll ns hns hsame]

end

/-- Where the steps of the plan succeed, and the node comes to the same all the way, **writing** it
takes these steps. -/
theorem materialize_of_runAll {n : Node} {x : Plan} (hrun : Step.runAll d x.steps = (e, .ok ()))
    (h : ∀ done, done <+: x.steps →
      plan r (Step.runAll d done).1 context override base n = x) :
    materialize r context override base d n = (e, .ok x.tree) := by
  have hx : plan r d context override base n = x := h [] List.nil_prefix
  subst hx
  have hscript := script_eq_steps_of_runAll n hrun fun done _ hsteps => h done hsteps
  have hsteady : Steady r context override base d n := by
    rintro y ⟨done, hdone, rfl⟩
    exact h done (hscript ▸ hdone)
  rw [materialize_eq_steps n hsteady, hrun]
  rfl

/-! ## Writing again -/

/-- A disk that holds the same is **near**. -/
theorem near_of_alike {n : Node} (h : d.Alike e) : Near r context override base d n e :=
  ⟨h.workDir, fun loc hne => absurd (h.look loc) hne⟩

/-- A disk that holds nothing but what two disks hold that are near is **near**. -/
theorem near_of_look {n : Node} {a b x : Disk} (ha : Near r context override base d n a)
    (hb : Near r context override base d n b) (hwork : x.workDir = d.workDir)
    (h : ∀ loc, x.look loc = a.look loc ∨ x.look loc = b.look loc) :
    Near r context override base d n x where
  workDir := hwork
  look loc hne := by
    rcases h loc with heq | heq
    · exact ha.look loc (heq ▸ hne)
    · exact hb.look loc (heq ▸ hne)

/-- **Writing again** succeeds with the same tree, and leaves a disk that holds the same. -/
theorem materialize_again {n : Node} {t : Tree} (hind : Independent r context override base d n)
    (hok : (materialize r context override base d n).2 = .ok t) :
    (materialize r context override base (materialize r context override base d n).1 n).2 = .ok t ∧
      (materialize r context override base d n).1.Alike
        (materialize r context override base (materialize r context override base d n).1 n).1 := by
  have hrun := runAll_of_materialize hind.steady hok
  have htree := tree_of_materialize hind.steady hok
  generalize (materialize r context override base d n).1 = e at hrun ⊢
  have hg := Step.grows_of_runAll hrun
  have hsettled := Step.settled_of_runAll hrun
  have hscript := script_eq_steps_of_runAll n hrun fun done hdone _ =>
    hind _ (near_of_passes ⟨done, hdone, rfl⟩)
  have hnear : ∀ done, done <+: (plan r d context override base n).steps →
      Near r context override base d n (Step.runAll d done).1 := fun done hdone =>
    near_of_passes ⟨done, hscript ▸ hdone, rfl⟩
  have hall := hnear _ (List.prefix_refl _)
  rw [hrun] at hall
  -- At any point the second run holds what the first has left at its end, or at the same point.
  have hagain : ∀ done, done <+: (plan r d context override base n).steps →
      ∃ e', Step.runAll e done = (e', .ok ()) ∧
        ∀ loc, e'.look loc = e.look loc ∨ e'.look loc = (Step.runAll d done).1.look loc := by
    rintro done ⟨rest, hrest⟩
    rw [← hrest] at hrun hsettled
    obtain ⟨d', hdone, -⟩ := Step.runAll_append_eq_ok hrun
    rw [hdone]
    exact Step.runAll_again hdone hg fun s hs => hsettled s (List.mem_append_left _ hs)
  obtain ⟨e', hrun', hlook⟩ := hagain _ (List.prefix_refl _)
  have hwrite : materialize r context override base e n =
      (e', .ok (plan r d context override base n).tree) := by
    refine materialize_of_runAll hrun' fun done hdone => ?_
    obtain ⟨x, hx, hxlook⟩ := hagain done hdone
    have hwork := (Step.grows_of_runAll hx).workDir.trans hg.workDir
    rw [hx]
    exact hind x (near_of_look hall (hnear done hdone) hwork hxlook)
  rw [hwrite, htree]
  refine ⟨rfl, (Step.grows_of_runAll hrun').workDir, fun loc => ?_⟩
  rw [hrun] at hlook
  exact (hlook loc).elim id id

end Node

/-! ## Writing what compares clean -/

namespace Plan

mutual

/-- Every step of a plan in which nothing fails brings about something that is **due**. -/
theorem exists_due_of_mem_steps : ∀ {x : Plan} {s : Step}, x.fault? = none → s ∈ x.steps →
    ∃ y ∈ x.due, y.step = s
  | .skip, s, _, hs => absurd hs (by simp [steps])
  | .fault e, s, h, _ => absurd h (by simp [fault?])
  | .file p content, s, _, hs => ⟨.file p content, List.mem_singleton_self _,
      (List.mem_singleton.mp hs).symm⟩
  | .folder p inside, s, h, hs => by
    rcases List.mem_cons.mp hs with rfl | hs
    · exact ⟨.folder p (dueAll inside), List.mem_append_right _ (List.mem_singleton_self _), rfl⟩
    · obtain ⟨y, hy, hstep⟩ := exists_due_of_mem_stepsAll h hs
      exact ⟨y, List.mem_append_left _ hy, hstep⟩

/-- Every step of plans in which nothing fails brings about something that is due. -/
theorem exists_due_of_mem_stepsAll : ∀ {xs : List Plan} {s : Step}, faultAll? xs = none →
    s ∈ stepsAll xs → ∃ y ∈ dueAll xs, y.step = s
  | [], s, _, hs => absurd hs (by simp [stepsAll])
  | x :: xs, s, h, hs => by
    rw [faultAll?] at h
    split at h
    · simp at h
    next hx =>
    rcases List.mem_append.mp hs with hs | hs
    · obtain ⟨y, hy, hstep⟩ := exists_due_of_mem_steps hx hs
      exact ⟨y, List.mem_append_left _ hy, hstep⟩
    · obtain ⟨y, hy, hstep⟩ := exists_due_of_mem_stepsAll h hs
      exact ⟨y, List.mem_append_right _ hy, hstep⟩

end

end Plan

/-- Where what is due is met, the step that brings it about has **nothing to do**. -/
theorem Due.Met.idle {d : Disk} : ∀ {y : Due}, y.Met d → y.step.Idle d
  | .file _ _, h => h
  | .folder _ _, h => h

namespace Node

variable {r : Renderer} {context : Context} {override : Option Path} {base : Path} {d : Disk}

/-- **Writing what compares clean** succeeds, and leaves a disk that holds the same. -/
theorem materialize_of_clean {n : Node} {report : Report}
    (hind : Independent r context override base d n)
    (hverify : verify r d context override base n = .ok report) (hclean : report.isClean = true) :
    ∃ t, (materialize r context override base d n).2 = .ok t ∧
      d.Alike (materialize r context override base d n).1 := by
  rw [verify_eq_plan, Plan.answer_eq_ok] at hverify
  obtain ⟨hfault, rfl⟩ := hverify
  have hmet := Plan.sound_iff_met.mp (Due.isClean_report.mp hclean)
  have hidle : ∀ s ∈ (plan r d context override base n).steps, s.Idle d := fun s hs => by
    obtain ⟨y, hy, rfl⟩ := Plan.exists_due_of_mem_steps hfault hs
    exact (hmet y hy).idle
  obtain ⟨e, hrun, halike⟩ := Step.runAll_of_idle hidle
  have hwrite : materialize r context override base d n =
      (e, .ok (plan r d context override base n).tree) := by
    refine materialize_of_runAll hrun fun done hdone => ?_
    obtain ⟨x, hx, hsame⟩ := Step.runAll_of_idle fun s hs => hidle s (hdone.subset hs)
    rw [hx]
    exact hind x (near_of_alike hsame)
  rw [hwrite]
  exact ⟨_, rfl, halike⟩

/-- **Writing is idempotent**, where rendering is independent of what is written.  A node that was
written without a failure is written again without one, to the same tree, and nothing changes, even
where several files go to one place.  Where a comparison with the disk is clean there is nothing to
do: the node is written without a failure, and nothing changes. -/
theorem materialize_idempotent {n : Node} (hind : Independent r context override base d n) :
    (∀ t, (materialize r context override base d n).2 = .ok t →
      (materialize r context override base (materialize r context override base d n).1 n).2 =
        .ok t ∧
      (materialize r context override base d n).1.Alike
        (materialize r context override base (materialize r context override base d n).1 n).1) ∧
    (∀ report, verify r d context override base n = .ok report → report.isClean = true →
      ∃ t, (materialize r context override base d n).2 = .ok t ∧
        d.Alike (materialize r context override base d n).1) :=
  ⟨fun _ hok => materialize_again hind hok,
    fun _ hverify hclean => materialize_of_clean hind hverify hclean⟩

/-- A folder with **two files** in one place. -/
def doubled : Node :=
  .folder none (.literal "docs") [.file none (.literal "a") (.text "x"),
    .file none (.literal "a") (.text "y")]

/-- A disk that holds the sample folder with its file. -/
def documented : Disk :=
  ⟨.dir [("w", .dir [("out", .dir [("docs", .dir [("README", .file "about docs".toUTF8)])])])], ["w"]⟩

/-- Two files in one place are written again, and the sample folder is written where it is there. -/
theorem materialize_idempotent_doubled :
    (∃ t, (materialize bareRenderer [] none ⟨"out"⟩ (Disk.bare ["w"]) doubled).2 = .ok t ∧
      (materialize bareRenderer [] none ⟨"out"⟩
        (materialize bareRenderer [] none ⟨"out"⟩ (Disk.bare ["w"]) doubled).1 doubled).2 = .ok t ∧
      (materialize bareRenderer [] none ⟨"out"⟩ (Disk.bare ["w"]) doubled).1.Alike
        (materialize bareRenderer [] none ⟨"out"⟩
          (materialize bareRenderer [] none ⟨"out"⟩ (Disk.bare ["w"]) doubled).1 doubled).1) ∧
    ∃ report t, verify bareRenderer documented [] none ⟨"out"⟩ readme = .ok report ∧
      report.isClean = true ∧ (materialize bareRenderer [] none ⟨"out"⟩ documented readme).2 = .ok t ∧
      documented.Alike (materialize bareRenderer [] none ⟨"out"⟩ documented readme).1 := by
  have hind : ∀ d n, n.readPaths = [] → Independent bareRenderer [] none ⟨"out"⟩ d n :=
    fun d n hn => independent_of_embedded isEmbedded_bareRenderer fun p hp =>
      absurd (hn ▸ hp) List.not_mem_nil
  refine ⟨?_, ?_⟩
  · have hok : (materialize bareRenderer [] none ⟨"out"⟩ (Disk.bare ["w"]) doubled).2.isOk =
        true := by decide +kernel
    obtain ⟨t, hm⟩ := exists_of_isOk hok
    exact ⟨t, hm, (materialize_idempotent (hind _ doubled rfl)).1 t hm⟩
  · have hclean : (verify bareRenderer documented [] none ⟨"out"⟩ readme).toOption.map
        Report.isClean = some true := by decide +kernel
    rcases hv : verify bareRenderer documented [] none ⟨"out"⟩ readme with x | report
    · rw [hv] at hclean
      simp [Except.toOption] at hclean
    · rw [hv] at hclean
      have hreport := Option.some.inj hclean
      obtain ⟨t, ht⟩ := (materialize_idempotent (hind documented readme rfl)).2 report hv hreport
      exact ⟨report, t, rfl, hreport, ht⟩

end Node

end Scaffold
