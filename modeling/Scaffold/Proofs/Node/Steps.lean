import Scaffold.Node.Operations
import Scaffold.Proofs.Disk.Effect

/-!
# Proofs/Node/Steps — making directories and writing files

Writing a layout makes directories, writes files, and stops where something fails: these are its
**steps**.  Taking steps makes a disk grow (`runAll_grows`) and leaves alone every location that no
step is about (`runAll_spares`).  After steps that succeed, every directory made is there
(`isDirectory_of_runAll`), and every file written is read back, if no two are written to one place
(`readBytes_of_runAll`).  Where a step fails, that is so of the steps before it, and none behind it
is taken (`exists_halts`, `Halts.left`).
-/

namespace Scaffold

/-- A **step** of writing a layout. -/
inductive Step where
  | makeDirs (p : Path)
  | write (p : Path) (content : Content)
  /-- Rendering has failed. -/
  | fail (e : Error)

namespace Step

variable {d d' e : Disk} {a b : List Step} {x : Error}

/-- Takes a step. -/
def run (d : Disk) : Step → Disk × Except Error Unit
  | .makeDirs p =>
    match d.makeDirs p with
    | (d', .error fault) => (d', .error (.disk fault))
    | (d', .ok ()) => (d', .ok ())
  | .write p content =>
    match d.writeFile p content.toBytes with
    | .error fault => (d, .error (.disk fault))
    | .ok d' => (d', .ok ())
  | .fail x => (d, .error x)

/-- Takes steps up to the first that **fails**. -/
def runAll (d : Disk) : List Step → Disk × Except Error Unit
  | [] => (d, .ok ())
  | s :: ss =>
    match s.run d with
    | (d', .error x) => (d', .error x)
    | (d', .ok ()) => runAll d' ss

@[simp] theorem runAll_nil (d : Disk) : runAll d [] = (d, .ok ()) := rfl

theorem runAll_cons_ok {s : Step} (h : s.run d = (d', .ok ())) (ss : List Step) :
    runAll d (s :: ss) = runAll d' ss := by rw [runAll, h]

theorem runAll_cons_error {s : Step} (h : s.run d = (d', .error x)) (ss : List Step) :
    runAll d (s :: ss) = (d', .error x) := by rw [runAll, h]

/-- After steps that succeed, the ones behind them are taken. -/
theorem runAll_append_ok : ∀ {a : List Step} {d : Disk}, runAll d a = (d', .ok ()) →
    ∀ b, runAll d (a ++ b) = runAll d' b
  | [], d, h, b => by
    obtain rfl : d = d' := congrArg Prod.fst h
    rfl
  | s :: ss, d, h, b => by
    rcases hs : s.run d with ⟨d₁, x | _⟩
    · rw [runAll_cons_error hs] at h
      simp at h
    · rw [runAll_cons_ok hs] at h
      rw [List.cons_append, runAll_cons_ok hs, runAll_append_ok h]

/-- After a step that fails, none is taken. -/
theorem runAll_append_error : ∀ {a : List Step} {d : Disk}, runAll d a = (d', .error x) →
    ∀ b, runAll d (a ++ b) = (d', .error x)
  | [], d, h, b => by simp at h
  | s :: ss, d, h, b => by
    rcases hs : s.run d with ⟨d₁, y | _⟩
    · rw [runAll_cons_error hs] at h
      rw [List.cons_append, runAll_cons_error hs, h]
    · rw [runAll_cons_ok hs] at h
      rw [List.cons_append, runAll_cons_ok hs, runAll_append_error h]

/-! ## What steps leave alone -/

/-- Making directories keeps what it has made, whatever comes of it. -/
theorem run_makeDirs (d : Disk) (p : Path) : ((makeDirs p).run d).1 = (d.makeDirs p).1 := by
  rw [run]
  rcases d.makeDirs p with ⟨d', fault | _⟩
  · rfl
  · rfl

/-- One step keeps directories directories and files files. -/
theorem run_grows (d : Disk) (s : Step) : d.Grows (s.run d).1 := by
  cases s with
  | makeDirs p =>
    rw [run_makeDirs]
    exact (Disk.makeDirs_addsDirs d p).grows
  | write p content =>
    rw [run]
    split
    · exact Disk.Grows.refl d
    · next d' hw => exact Disk.writeFile_grows hw
  | fail e => exact Disk.Grows.refl d

/-- **Any number of steps** keeps directories directories and files files. -/
theorem runAll_grows : ∀ (d : Disk) (steps : List Step), d.Grows (runAll d steps).1
  | d, [] => Disk.Grows.refl d
  | d, s :: ss => by
    have h := run_grows d s
    rw [runAll]
    split
    · next d' e hs =>
      rw [hs] at h
      exact h
    · next d' hs =>
      rw [hs] at h
      exact h.trans (runAll_grows d' ss)

/-- The step **leaves a location alone**: it writes elsewhere, and makes no directory there. -/
def Spares (d : Disk) (loc : Location) : Step → Prop
  | .makeDirs p => d.look loc = none → loc ∉ d.stations p
  | .write p _ => d.place p ≠ loc
  | .fail _ => True

/-- A step leaves a location alone on every disk where the same stands there. -/
theorem Spares.congr {loc : Location} (hwork : d'.workDir = d.workDir)
    (hlook : d'.look loc = d.look loc) : ∀ {s : Step}, s.Spares d loc → s.Spares d' loc
  | .makeDirs p, h => by
    rw [Spares, hlook, Disk.stations_congr hwork]
    exact h
  | .write p _, h => by
    rw [Spares, Disk.place_congr hwork]
    exact h
  | .fail _, _ => trivial

/-- What stands at a location that **one step** leaves alone stays. -/
theorem run_spares {loc : Location} : ∀ {s : Step}, s.Spares d loc →
    (s.run d).1.look loc = d.look loc
  | .makeDirs p, h => by
    rw [run_makeDirs]
    rcases (Disk.makeDirs_addsDirs d p).look loc with heq | ⟨hmem, hnone, _⟩
    · exact heq
    · exact absurd hmem (h hnone)
  | .write p content, h => by
    rw [run]
    split
    · rfl
    · next d' hw => exact (Disk.writeFile_sets hw).look_of_ne (Ne.symm h)
  | .fail _, _ => rfl

/-- **What stands at a location that all steps leave alone stays**, whether they succeed or fail. -/
theorem runAll_spares {loc : Location} : ∀ {steps : List Step} {d : Disk},
    (∀ s ∈ steps, s.Spares d loc) → (runAll d steps).1.look loc = d.look loc
  | [], _, _ => rfl
  | s :: ss, d, h => by
    have hwork := (run_grows d s).workDir
    have hlook := run_spares (h s List.mem_cons_self)
    rw [runAll]
    split
    · next d' e hs =>
      rw [hs] at hlook
      exact hlook
    · next d' hs =>
      rw [hs] at hwork hlook
      have hrest : ∀ x ∈ ss, x.Spares d' loc := fun x hx =>
        Spares.congr hwork hlook (h x (List.mem_cons_of_mem _ hx))
      rw [runAll_spares hrest, hlook]

/-! ## What steps leave behind -/

/-- The path and content of a file that is written. -/
def file? : Step → Option (Path × Content)
  | .write p content => some (p, content)
  | _ => none

/-- Where a file stands that is not written again it **stays**. -/
theorem runAll_keeps {loc : Location} {bytes : ByteArray} {steps : List Step}
    (hlook : d.look loc = some (.file bytes))
    (hother : ∀ f ∈ steps.filterMap file?, d.place f.1 ≠ loc) :
    (runAll d steps).1.look loc = some (.file bytes) := by
  rw [← hlook]
  refine runAll_spares fun s hs => ?_
  cases s with
  | makeDirs p =>
    intro hnone
    rw [hlook] at hnone
    simp at hnone
  | write p content => exact hother (p, content) (List.mem_filterMap.mpr ⟨_, hs, rfl⟩)
  | fail x => trivial

/-- Steps that succeed begin with one that does. -/
theorem runAll_cons_eq_ok {s : Step} {ss : List Step} (h : runAll d (s :: ss) = (e, .ok ())) :
    ∃ d', s.run d = (d', .ok ()) ∧ runAll d' ss = (e, .ok ()) := by
  rcases hs : s.run d with ⟨d', x | _⟩
  · rw [runAll_cons_error hs] at h
    simp at h
  · rw [runAll_cons_ok hs] at h
    exact ⟨d', rfl, h⟩

/-- Directories are made if that step succeeds. -/
theorem makeDirs_of_run {p : Path} (h : (makeDirs p).run d = (d', .ok ())) :
    d.makeDirs p = (d', .ok ()) := by
  rw [run] at h
  split at h
  · simp at h
  · next d₁ hm =>
    obtain rfl : d₁ = d' := congrArg Prod.fst h
    exact hm

/-- Directories are made if taking that step alone succeeds. -/
theorem makeDirs_of_runAll {p : Path} (h : runAll d [makeDirs p] = (e, .ok ())) :
    d.makeDirs p = (e, .ok ()) := by
  obtain ⟨d', hs, hend⟩ := runAll_cons_eq_ok h
  obtain rfl : d' = e := congrArg Prod.fst hend
  exact makeDirs_of_run hs

/-- A file is written if that step succeeds. -/
theorem writeFile_of_run {p : Path} {content : Content}
    (h : (write p content).run d = (d', .ok ())) : d.writeFile p content.toBytes = .ok d' := by
  rw [run] at h
  split at h
  · simp at h
  · next d₁ hw =>
    obtain rfl : d₁ = d' := congrArg Prod.fst h
    exact hw

/-- Where steps have succeeded the disk has grown. -/
theorem grows_of_runAll {steps : List Step} (h : runAll d steps = (e, .ok ())) : d.Grows e := by
  have hg := runAll_grows d steps
  rw [h] at hg
  exact hg

/-- **Every directory that was made is there**, the empty path apart. -/
theorem isDirectory_of_runAll {p : Path} (hne : p.text.isEmpty = false) :
    ∀ {steps : List Step} {d e : Disk}, runAll d steps = (e, .ok ()) → makeDirs p ∈ steps →
      e.isDirectory p = true
  | s :: ss, d, e, h, hp => by
    obtain ⟨d', hs, hss⟩ := runAll_cons_eq_ok h
    rcases List.mem_cons.mp hp with rfl | hp
    · exact Disk.isDirectory_of_grows (grows_of_runAll hss)
        (Disk.isDirectory_of_makeDirs hne (makeDirs_of_run hs))
    · exact isDirectory_of_runAll hne hss hp

/-- Steps that succeed are two lists of steps that do, one **behind** the other. -/
theorem runAll_append_eq_ok : ∀ {a b : List Step} {d : Disk}, runAll d (a ++ b) = (e, .ok ()) →
    ∃ d', runAll d a = (d', .ok ()) ∧ runAll d' b = (e, .ok ())
  | [], _, d, h => ⟨d, rfl, h⟩
  | s :: ss, b, d, h => by
    obtain ⟨d₁, hs, hrest⟩ := runAll_cons_eq_ok h
    obtain ⟨d', ha, hb⟩ := runAll_append_eq_ok hrest
    exact ⟨d', (runAll_cons_ok hs ss).trans ha, hb⟩

/-- **What was written last** to a place is read back. -/
theorem readBytes_of_last_write {p : Path} {content : Content}
    (h : runAll d (a ++ write p content :: b) = (e, .ok ()))
    (hlast : ∀ f ∈ b.filterMap file?, d.place f.1 ≠ d.place p) :
    e.readBytes p = .ok content.toBytes := by
  obtain ⟨d₁, ha, hrest⟩ := runAll_append_eq_ok h
  obtain ⟨d₂, hs, hb⟩ := runAll_cons_eq_ok hrest
  have hw := writeFile_of_run hs
  have hwork₁ : d₁.workDir = d.workDir := (grows_of_runAll ha).workDir
  have hwork₂ : d₂.workDir = d.workDir := (Disk.writeFile_grows hw).workDir.trans hwork₁
  have hother : ∀ f ∈ b.filterMap file?, d₂.place f.1 ≠ d₁.place p := fun f hf => by
    rw [Disk.place_congr hwork₂, Disk.place_congr hwork₁]
    exact hlast f hf
  have hkept := runAll_keeps (Disk.writeFile_sets hw).look_self hother
  rw [hb] at hkept
  exact Disk.readBytes_of_writeFile hw ((Disk.writeFile_grows hw).trans (grows_of_runAll hb)) hkept

/-- **Every file that was written is read back**, if no two are written to one place. -/
theorem readBytes_of_runAll {p : Path} {content : Content} {steps : List Step} {d e : Disk}
    (h : runAll d steps = (e, .ok ()))
    (hnodup : ((steps.filterMap file?).map fun f => d.place f.1).Nodup)
    (hp : write p content ∈ steps) : e.readBytes p = .ok content.toBytes := by
  obtain ⟨a, b, rfl⟩ := List.append_of_mem hp
  refine readBytes_of_last_write h fun f hf heq => ?_
  rw [List.filterMap_append,
    List.filterMap_cons_some (by rfl : file? (write p content) = some (p, content)),
    List.map_append, List.map_cons] at hnodup
  exact (List.nodup_cons.mp (List.nodup_append.mp hnodup).2.1).1 (List.mem_map.mpr ⟨f, hf, heq⟩)

/-! ## Up to the first failing step -/

/-- **How far steps come**: to the end, or to the first that fails, which ends the run. -/
inductive Halts (d : Disk) :
    List Step → List Step → Option Step → Disk × Except Error Unit → Prop where
  | ended {done : List Step} {e : Disk} (h : runAll d done = (e, .ok ())) :
      Halts d done done none (e, .ok ())
  | failed {done rest : List Step} {s : Step} {d' e : Disk} {x : Error}
      (hdone : runAll d done = (d', .ok ())) (hs : s.run d' = (e, .error x)) :
      Halts d (done ++ s :: rest) done (some s) (e, .error x)

/-- Every run of steps **halts**, and where it does is how it ends. -/
theorem exists_halts : ∀ (steps : List Step) (d : Disk), ∃ done failed,
    Halts d steps done failed (runAll d steps)
  | [], d => ⟨[], none, .ended rfl⟩
  | s :: ss, d => by
    rcases hs : s.run d with ⟨d₁, x | _⟩
    · rw [runAll_cons_error hs]
      exact ⟨[], some s, @Halts.failed d [] ss s d d₁ x rfl hs⟩
    · rw [runAll_cons_ok hs]
      obtain ⟨done, failed, hend⟩ := exists_halts ss d₁
      refine ⟨s :: done, failed, ?_⟩
      generalize runAll d₁ ss = z at hend ⊢
      cases hend with
      | ended h => exact .ended ((runAll_cons_ok hs _).trans h)
      | failed hdone hfail => exact .failed ((runAll_cons_ok hs done).trans hdone) hfail

/-- How far steps come is how they **end**. -/
theorem Halts.runAll_eq {steps done : List Step} {failed : Option Step}
    {z : Disk × Except Error Unit} (h : Halts d steps done failed z) : runAll d steps = z := by
  cases h with
  | ended h => exact h
  | failed hdone hs => rw [runAll_append_ok hdone, runAll_cons_error hs]

/-- Steps come **no further** and no less far. -/
theorem Halts.unique {steps done done' : List Step} {failed failed' : Option Step}
    {z z' : Disk × Except Error Unit} (h : Halts d steps done failed z)
    (h' : Halts d steps done' failed' z') : done = done' ∧ failed = failed' := by
  have hz := h.runAll_eq.symm.trans h'.runAll_eq
  cases h with
  | ended h =>
    cases h' with
    | ended h' => exact ⟨rfl, rfl⟩
    | failed hdone hs => simp at hz
  | @failed done rest s d₁ e x hdone hs =>
    generalize hsteps : done ++ s :: rest = steps at h'
    cases h' with
    | ended h' => simp at hz
    | @failed done' rest' s' d₁' e' x' hdone' hs' =>
      rcases List.append_eq_append_iff.mp hsteps with ⟨more, rfl, htail⟩ | ⟨more, rfl, htail⟩
      · rcases List.cons_eq_append_iff.mp htail with ⟨rfl, htail⟩ | ⟨more, rfl, -⟩
        · obtain ⟨rfl, -⟩ := List.cons.inj htail
          exact ⟨(List.append_nil done).symm, rfl⟩
        · rw [runAll_append_ok hdone, runAll_cons_error hs] at hdone'
          simp at hdone'
      · rcases List.cons_eq_append_iff.mp htail with ⟨rfl, htail⟩ | ⟨more, rfl, -⟩
        · obtain ⟨rfl, -⟩ := List.cons.inj htail
          exact ⟨List.append_nil done', rfl⟩
        · rw [runAll_append_ok hdone', runAll_cons_error hs'] at hdone
          simp at hdone

/-- A step that fails **leaves** what stands anywhere. -/
theorem look_of_run_error {s : Step} (h : s.run d = (e, .error x)) {loc : Location} {i : Item}
    (hlook : d.look loc = some i) : e.look loc = some i := by
  cases s with
  | makeDirs p =>
    have hadds := Disk.makeDirs_addsDirs d p
    rw [← run_makeDirs, h] at hadds
    rcases hadds.look loc with heq | ⟨-, hnone, -⟩
    · rw [heq, hlook]
    · rw [hlook] at hnone
      simp at hnone
  | write p content =>
    rw [run] at h
    split at h
    · obtain rfl : d = e := congrArg Prod.fst h
      exact hlook
    · simp at h
  | fail y =>
    obtain rfl : d = e := congrArg Prod.fst h
    exact hlook

/-- A run only grows **on its way**. -/
theorem grows_of_isPrefix {done steps : List Step} (h : done <+: steps) :
    (runAll d done).1.Grows (runAll d steps).1 := by
  obtain ⟨after, rfl⟩ := h
  rcases hdone : runAll d done with ⟨d', x | _⟩
  · rw [runAll_append_error hdone]
    exact Disk.Grows.refl d'
  · rw [runAll_append_ok hdone]
    exact runAll_grows d' after

/-- What steps that were taken, and the one that failed if one did, have **left** on a disk. -/
structure Left (d : Disk) (done : List Step) (failed : Option Step) (e : Disk) : Prop where
  /-- Every directory that was made is there, the empty path apart, which is none. -/
  isDirectory {p : Path} : p.text.isEmpty = false → makeDirs p ∈ done → e.isDirectory p = true
  /-- What was written last to a place is read back. -/
  readBytes {a b : List Step} {p : Path} {content : Content} : done = a ++ write p content :: b →
    (∀ f ∈ b.filterMap file?, d.place f.1 ≠ d.place p) → e.readBytes p = .ok content.toBytes
  /-- Nothing changes but at the place of a file that is written, and where a directory on the path
  of one that is made is missing. -/
  look {loc : Location} : (∀ s ∈ done ++ failed.toList, s.Spares d loc) → e.look loc = d.look loc

/-- **What a run leaves** on a disk is what the steps before the first that fails have done. -/
theorem Halts.left {steps done : List Step} {failed : Option Step} {z : Disk × Except Error Unit}
    (h : Halts d steps done failed z) : Left d done failed z.1 := by
  cases h with
  | @ended done e hdone =>
    refine ⟨fun hne hp => isDirectory_of_runAll hne hdone hp, ?_, ?_⟩
    · rintro a b p content rfl hlast
      exact readBytes_of_last_write hdone hlast
    · intro loc hspares
      rw [Option.toList_none, List.append_nil] at hspares
      have hlook := runAll_spares hspares
      rwa [hdone] at hlook
  | @failed done rest s d' e x hdone hs =>
    have hg : d'.Grows e := by
      have hrun := run_grows d' s
      rwa [hs] at hrun
    refine ⟨fun hne hp => Disk.isDirectory_of_grows hg (isDirectory_of_runAll hne hdone hp), ?_, ?_⟩
    · rintro a b p content rfl hlast
      have hread := readBytes_of_last_write hdone hlast
      have hlook := (Disk.walk_place (Disk.readBytes_iff.mp hread).2).1.look
      exact Disk.readBytes_of_grows hg hread (look_of_run_error hs hlook)
    · intro loc hspares
      have hattempt : runAll d (done ++ [s]) = (e, .error x) := by
        rw [runAll_append_ok hdone, runAll_cons_error hs]
      have hlook := runAll_spares hspares
      rwa [Option.toList_some, hattempt] at hlook

end Step

end Scaffold
