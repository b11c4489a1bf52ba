import Scaffold.Proofs.Disk.Below
import Scaffold.Proofs.Node.Steps

/-!
# Proofs/Node/Commute — steps that have nothing to do with one another

What a step comes to depends on the locations that it **reads** alone (`Step.runAll_congr`): those
that a walk along its path passes.  Two lists of steps are apart if neither changes what the other
reads, directories that are there already left aside; then it does not matter which of them is taken
first (`Step.runAll_swap`).  Below a directory, steps below two plain names are apart
(`Step.apart_of_below`).
-/

namespace Scaffold

/-! ## Failing together -/

/-- Two answers **fail together**, or are related. -/
inductive Together {α : Type} (related : α → α → Prop) : Except Error α → Except Error α → Prop where
  | failed (x y : Error) : Together related (.error x) (.error y)
  | answered {a b : α} (h : related a b) : Together related (.ok a) (.ok b)

/-- Where one answer does not fail, the other is **related** to it. -/
theorem Together.of_isOk {α : Type} {related : α → α → Prop} {x y : Except Error α}
    (h : Together related x y) (hx : x.isOk = true) :
    ∃ a b, x = .ok a ∧ y = .ok b ∧ related a b := by
  cases h with
  | failed e e' => simp [Except.isOk, Except.toBool] at hx
  | answered hab => exact ⟨_, _, rfl, rfl, hab⟩

namespace Step

variable {d d' e : Disk} {a b : List Step} {on : Location → Prop}

/-! ## What steps read -/

/-- The path that a step is **about**. -/
def path? : Step → Option Path
  | .makeDirs p => some p
  | .write p _ => some p
  | .fail _ => none

/-- The locations that a step **reads**. -/
def reads (d : Disk) : Step → List Location
  | .makeDirs p => d.passed p
  | .write p _ => d.passed p
  | .fail _ => []

/-- A step reads what a walk along its path **passes**. -/
theorem exists_path_of_mem_reads {loc : Location} : ∀ {s : Step}, loc ∈ s.reads d →
    ∃ p, s.path? = some p ∧ loc ∈ d.passed p
  | .makeDirs p, h => ⟨p, rfl, h⟩
  | .write p _, h => ⟨p, rfl, h⟩

theorem reads_congr (h : d'.workDir = d.workDir) : ∀ s : Step, s.reads d' = s.reads d
  | .makeDirs p => Disk.passed_congr h p
  | .write p _ => Disk.passed_congr h p
  | .fail _ => rfl

/-- A step that is about no path leaves everything **alone**. -/
theorem spares_of_path? {loc : Location} : ∀ {s : Step}, s.path? = none → s.Spares d loc
  | .fail _, _ => trivial

/-- What a step does not leave alone it **reads**. -/
theorem spares_of_not_mem_reads {loc : Location} : ∀ {s : Step}, loc ∉ s.reads d → s.Spares d loc
  | .makeDirs _, h => fun _ hmem => h (List.mem_cons_of_mem _ hmem)
  | .write p _, h => fun heq => h (heq ▸ List.mem_cons_of_mem _ (Disk.place_mem_stations d p))
  | .fail _, _ => trivial

/-- **A step** comes to the same on disks that agree on what it reads, and they go on agreeing. -/
theorem run_congr (h : Disk.AgreeOn on d d') : ∀ {s : Step}, (∀ loc ∈ s.reads d, on loc) →
    (s.run d').2 = (s.run d).2 ∧ Disk.AgreeOn on (s.run d).1 (s.run d').1
  | .makeDirs p, hon => by
    obtain ⟨hsame, hagree⟩ := Disk.makeDirs_congr h fun _ => hon
    rw [run_makeDirs, run_makeDirs]
    refine ⟨?_, hagree⟩
    rw [run, run]
    rcases hm : d.makeDirs p with ⟨x, f | _⟩ <;> rcases hm' : d'.makeDirs p with ⟨x', f' | _⟩ <;>
      rw [hm, hm'] at hsame
    · rw [Except.error.inj hsame]
    · simp at hsame
    · simp at hsame
  | .write p content, hon => by
    rw [run, run]
    rcases Disk.writeFile_congr h hon content.toBytes with ⟨f, hw, hw'⟩ | ⟨x, x', hw, hw', hagree⟩
    · rw [hw, hw']
      exact ⟨rfl, h⟩
    · rw [hw, hw']
      exact ⟨rfl, hagree⟩
  | .fail _, _ => ⟨rfl, h⟩

/-- **Steps** come to the same on disks that agree on what they read, and these go on agreeing. -/
theorem runAll_congr : ∀ {steps : List Step} {d d' : Disk}, Disk.AgreeOn on d d' →
    (∀ s ∈ steps, ∀ loc ∈ s.reads d, on loc) → (runAll d' steps).2 = (runAll d steps).2 ∧
      Disk.AgreeOn on (runAll d steps).1 (runAll d' steps).1
  | [], _, _, h, _ => ⟨rfl, h⟩
  | s :: ss, d, d', h, hon => by
    obtain ⟨hsame, hagree⟩ := run_congr h (hon s List.mem_cons_self)
    have hwork := (run_grows d s).workDir
    rcases hs : s.run d with ⟨x, f | _⟩ <;> rcases hs' : s.run d' with ⟨x', f' | _⟩ <;>
      rw [hs, hs'] at hsame hagree
    · rw [runAll_cons_error hs, runAll_cons_error hs']
      exact ⟨hsame, hagree⟩
    · simp at hsame
    · simp at hsame
    · rw [runAll_cons_ok hs, runAll_cons_ok hs']
      rw [hs] at hwork
      refine runAll_congr hagree fun t ht loc hloc => hon t (List.mem_cons_of_mem _ ht) loc ?_
      rwa [reads_congr hwork] at hloc

/-! ## The same end -/

/-- Two runs **end alike**: both fail, or both succeed and leave disks that hold the same. -/
def SameEnd (x y : Disk × Except Error Unit) : Prop := Together (fun _ _ => x.1.Alike y.1) x.2 y.2

theorem SameEnd.refl (x : Disk × Except Error Unit) : SameEnd x x := by
  obtain ⟨d, f | _⟩ := x
  · exact .failed f f
  · exact .answered (Disk.Alike.refl d)

/-- Runs that end alike with a third end alike. -/
theorem SameEnd.trans {x y z : Disk × Except Error Unit} (h : SameEnd x y) (h' : SameEnd y z) :
    SameEnd x z := by
  obtain ⟨dx, x⟩ := x
  obtain ⟨dy, y⟩ := y
  obtain ⟨dz, z⟩ := z
  cases h with
  | failed f g =>
    cases h' with
    | failed _ k => exact .failed f k
  | answered hxy =>
    cases h' with
    | answered hyz => exact .answered (hxy.trans hyz)

/-- Steps on disks that hold the same **end alike**. -/
theorem sameEnd_of_alike (h : d.Alike d') (steps : List Step) :
    SameEnd (runAll d steps) (runAll d' steps) := by
  obtain ⟨hsame, hagree⟩ := runAll_congr (h.agreeOn fun _ => True)
    fun s (_ : s ∈ steps) _ _ => trivial
  rw [SameEnd, hsame]
  rcases (runAll d steps).2 with f | _
  · exact .failed f f
  · exact .answered hagree.alike

/-- Steps that end alike, with steps behind them that end alike on what the first leave, **end
alike**. -/
theorem SameEnd.append {a' b' : List Step} (h : SameEnd (runAll d a) (runAll d a'))
    (hthen : ∀ e, runAll d a' = (e, .ok ()) → SameEnd (runAll e b) (runAll e b')) :
    SameEnd (runAll d (a ++ b)) (runAll d (a' ++ b')) := by
  rcases ha : runAll d a with ⟨e, x | _⟩ <;> rcases ha' : runAll d a' with ⟨e', x' | _⟩ <;>
    rw [ha, ha'] at h
  · rw [runAll_append_error ha, runAll_append_error ha']
    exact .failed x x'
  · cases h
  · cases h
  · rw [runAll_append_ok ha, runAll_append_ok ha']
    cases h with
    | answered halike => exact (sameEnd_of_alike halike b).trans (hthen e' ha')

/-! ## Taking them in either order -/

/-- Steps are **apart** from others: these leave alone what those read, unless that is a directory,
which it stays. -/
def Apart (d : Disk) (a b : List Step) : Prop :=
  ∀ s ∈ a, ∀ loc ∈ s.reads d, d.look loc = some .dir ∨ ∀ t ∈ b, t.Spares d loc

/-- A location that is left alone is left alone on a larger disk. -/
theorem Spares.of_grows (hg : d.Grows d') {loc : Location} : ∀ {s : Step}, s.Spares d loc →
    s.Spares d' loc
  | .makeDirs p, h => fun hnone => by
    rw [Disk.stations_congr hg.workDir]
    refine h ?_
    rcases hlook : d.look loc with _ | ⟨_ | b⟩
    · rfl
    · rw [hg.dir hlook] at hnone
      simp at hnone
    · obtain ⟨b', hb'⟩ := hg.file hlook
      rw [hb'] at hnone
      simp at hnone
  | .write p _, h => by
    rw [Spares, Disk.place_congr hg.workDir]
    exact h
  | .fail _, _ => trivial

/-- What steps read that are apart from others **stays** while these are taken, on any larger
disk. -/
theorem Apart.keeps (h : Apart d a b) (hg : d.Grows e) {loc : Location}
    (hloc : ∃ s ∈ a, loc ∈ s.reads d) : (runAll e b).1.look loc = e.look loc := by
  obtain ⟨s, hs, hloc⟩ := hloc
  rcases h s hs loc hloc with hdir | hspares
  · have hthere := hg.dir hdir
    rw [hthere]
    exact (runAll_grows e b).dir hthere
  · exact runAll_spares fun t ht => (hspares t ht).of_grows hg

/-- Steps that are apart from others **come to the same** after these. -/
theorem Apart.congr (h : Apart d a b) : (runAll (runAll d b).1 a).2 = (runAll d a).2 ∧
    Disk.AgreeOn (fun loc => ∃ s ∈ a, loc ∈ s.reads d) (runAll d a).1
      (runAll (runAll d b).1 a).1 := by
  have hagree : Disk.AgreeOn (fun loc => ∃ s ∈ a, loc ∈ s.reads d) d (runAll d b).1 :=
    ⟨(runAll_grows d b).workDir, fun loc hloc => h.keeps (Disk.Grows.refl d) hloc⟩
  exact runAll_congr hagree fun s hs loc hloc => ⟨s, hs, hloc⟩

/-- A location that no step reads is **left alone** by all of them. -/
theorem look_of_not_reads {loc : Location} (h : ¬ ∃ s ∈ a, loc ∈ s.reads d)
    (hwork : e.workDir = d.workDir) : (runAll e a).1.look loc = e.look loc := by
  refine runAll_spares fun s hs => spares_of_not_mem_reads fun hloc => h ⟨s, hs, ?_⟩
  rwa [reads_congr hwork] at hloc

/-- What steps that are apart leave in the one order is what they leave **in the other**. -/
theorem Apart.alike (hab : Apart d a b) (hba : Apart d b a) :
    (runAll (runAll d a).1 b).1.Alike (runAll (runAll d b).1 a).1 where
  workDir := by
    rw [(runAll_grows _ a).workDir, (runAll_grows d b).workDir, (runAll_grows _ b).workDir,
      (runAll_grows d a).workDir]
  look loc := by
    by_cases ha : ∃ s ∈ a, loc ∈ s.reads d
    · rw [hab.keeps (runAll_grows d a) ha]
      exact hab.congr.2.look loc ha
    by_cases hb : ∃ s ∈ b, loc ∈ s.reads d
    · rw [hba.keeps (runAll_grows d b) hb]
      exact (hba.congr.2.look loc hb).symm
    · rw [look_of_not_reads ha (runAll_grows d b).workDir, look_of_not_reads hb rfl,
        look_of_not_reads hb (runAll_grows d a).workDir, look_of_not_reads ha rfl]

/-- **Steps that are apart** may be taken in either order. -/
theorem runAll_swap (hab : Apart d a b) (hba : Apart d b a) :
    SameEnd (runAll d (a ++ b)) (runAll d (b ++ a)) := by
  have halike := hab.alike hba
  have ha := hab.congr.1
  have hb := hba.congr.1
  rcases hda : runAll d a with ⟨x, f | _⟩ <;> rcases hdb : runAll d b with ⟨y, g | _⟩ <;>
    rw [hda, hdb] at ha hb halike
  · rw [runAll_append_error hda, runAll_append_error hdb]
    exact .failed f g
  · rw [runAll_append_error hda, runAll_append_ok hdb, SameEnd, ha]
    exact .failed f f
  · rw [runAll_append_ok hda, runAll_append_error hdb, SameEnd, hb]
    exact .failed g g
  · rw [runAll_append_ok hda, runAll_append_ok hdb, SameEnd, ha, hb]
    exact .answered halike

/-! ## Below a directory -/

/-- The step is about a path that plain names lead to, **below** another. -/
def Below (q : Path) (s : Step) : Prop :=
  ∀ p, s.path? = some p → ∃ names, (∀ n ∈ names, Path.IsPlain n) ∧ p = q.joinAll names

variable {p : Path} {name other : String} {loc : Location}

/-- A step is **below its own path**. -/
theorem below_self {s : Step} (h : s.path? = some p) : s.Below p := fun _ hq =>
  ⟨[], fun _ hn => absurd hn List.not_mem_nil, Option.some.inj (hq.symm.trans h)⟩

/-- What is on the way to a path that is ready is a **directory**, or where the path leads to. -/
theorem look_of_ready (hready : d.Ready p) (hloc : loc ∈ d.passed p) :
    d.look loc = some .dir ∨ loc = d.place p := by
  rcases hready with hempty | hdir
  · have htext : p = ⟨""⟩ := by rw [← String.isEmpty_iff.mp hempty]
    subst htext
    have hwork : loc = d.workDir := by
      simpa [Disk.passed, Disk.origin, Path.isAbsolute, Disk.stations, Disk.stationsFrom,
        Text.splitChar] using hloc
    exact Or.inr (hwork.trans rfl)
  · exact Or.inl (Disk.look_of_mem_passed hdir loc hloc)

/-- On the way to names below a name, below a path that is ready, there are **directories**, the
place of the path, and what is below the name. -/
theorem Below.reads {s : Step} (h : s.Below (p.joinName name)) (hn : Path.IsPlain name)
    (hready : d.Ready p) (hloc : loc ∈ s.reads d) :
    d.look loc = some .dir ∨ loc = d.place p ∨ d.place p ++ [name] <+: loc := by
  have hway : loc ∈ d.passed p → d.look loc = some .dir ∨ loc = d.place p ∨
      d.place p ++ [name] <+: loc := fun hmem =>
    (look_of_ready hready hmem).imp_right Or.inl
  obtain ⟨q, hq, hloc⟩ := exists_path_of_mem_reads hloc
  obtain ⟨names, hplain, rfl⟩ := h q hq
  rcases List.mem_cons.mp hloc with rfl | hloc
  · refine hway (List.mem_cons.mpr (Or.inl ?_))
    exact @Disk.origin_joinAll (name :: names) d p (List.forall_mem_cons.mpr ⟨hn, hplain⟩)
  · rcases Disk.stations_joinAll d _ hplain loc hloc with hmem | hbelow
    · rcases Disk.stations_joinName hn d p loc hmem with ⟨-, hmem⟩ | rfl
      · exact hway (List.mem_cons_of_mem _ hmem)
      · exact Or.inr (Or.inr (List.prefix_refl _))
    · rw [Disk.place_joinName hn] at hbelow
      exact Or.inr (Or.inr hbelow)

/-- A step below a name, below a path that is ready, **leaves alone** what is not below the name. -/
theorem Below.spares (hn : Path.IsPlain name) (hready : d.Ready p)
    (hloc : ¬ d.place p ++ [name] <+: loc) : ∀ {s : Step}, s.Below (p.joinName name) →
      s.Spares d loc
  | .makeDirs q, h => fun hnone hmem => by
    obtain ⟨names, hplain, rfl⟩ := h q rfl
    rcases Disk.stations_joinAll d _ hplain loc hmem with hmem | hbelow
    · rcases Disk.stations_joinName hn d p loc hmem with ⟨hne, hmem⟩ | rfl
      · have hdir := hready.resolve_left (by rw [hne]; simp)
        rw [Disk.look_of_mem_passed hdir loc (List.mem_cons_of_mem _ hmem)] at hnone
        simp at hnone
      · exact hloc (List.prefix_refl _)
    · rw [Disk.place_joinName hn] at hbelow
      exact hloc hbelow
  | .write q content, h => fun heq => by
    obtain ⟨names, hplain, rfl⟩ := h q rfl
    have hbelow := Disk.place_joinAll d (p.joinName name) hplain
    rw [Disk.place_joinName hn, heq] at hbelow
    exact hloc hbelow
  | .fail _, _ => trivial

/-- Nothing is below **two names**. -/
theorem not_below_other {here : Location} (hne : name ≠ other)
    (h : here ++ [name] <+: loc) : ¬ here ++ [other] <+: loc := by
  rintro ⟨rest, rfl⟩
  obtain ⟨rest', hrest⟩ := h
  rw [List.append_assoc, List.append_assoc, List.append_cancel_left_eq] at hrest
  exact hne (List.cons.inj hrest).1

/-- **Steps below different names**, below a path that is ready, are apart. -/
theorem apart_of_below (hready : d.Ready p) (hn : Path.IsPlain name) (hother : Path.IsPlain other)
    (hne : name ≠ other) (ha : ∀ s ∈ a, s.Below (p.joinName name))
    (hb : ∀ s ∈ b, s.Below (p.joinName other)) : Apart d a b := by
  intro s hs loc hloc
  rcases (ha s hs).reads hn hready hloc with hdir | rfl | hbelow
  · exact Or.inl hdir
  · refine Or.inr fun t ht => Below.spares hother hready (fun hpre => ?_) (hb t ht)
    have hlength := hpre.length_le
    rw [List.length_append, List.length_singleton] at hlength
    omega
  · exact Or.inr fun t ht =>
      Below.spares hother hready (not_below_other hne hbelow) (hb t ht)

end Step

end Scaffold
