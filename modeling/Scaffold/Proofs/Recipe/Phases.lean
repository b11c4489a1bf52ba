import Mathlib.Data.List.Induction
import Scaffold.Proofs.Recipe.Audit

/-!
# Proofs/Recipe/Phases — how far a creation comes

A creation goes through its phases in order: it finds its context and its path, runs the hooks before
the writing, writes the layout, runs the hooks behind it, and adds its record.  Hooks run in order, each
on what the one before has left (`Hook.runAll_append`), up to the first that fails
(`Hook.exists_failsAt`).  Where a phase fails the disk stays as that phase has left it, and no hook that
would have come later makes a difference (`Recipe.create_phases`).
-/

namespace Scaffold

theorem Log.empty_append (l : Log) : Log.empty.append l = l := by
  simp [Log.empty, Log.append]

theorem Log.append_assoc (a b c : Log) : (a.append b).append c = a.append (b.append c) := by
  simp [Log.append, String.append_assoc]

/-! ## Hooks, one after the other -/

namespace Hook

variable {h : Host} {d : Disk} {p : Path} {ctx : Context}

/-- Goes on with the disk, the path and the context that hooks have **left**, unless one has failed. -/
def Passed.andThen (x : Passed) (go : Disk → Path → Context → Passed) : Passed :=
  match x.result with
  | .error e => ⟨x.disk, x.log, .error e⟩
  | .ok (p, ctx) => { go x.disk p ctx with log := x.log.append (go x.disk p ctx).log }

theorem Passed.andThen_assoc (x : Passed) (f g : Disk → Path → Context → Passed) :
    (x.andThen f).andThen g = x.andThen fun d p ctx => (f d p ctx).andThen g := by
  obtain ⟨d, log, e | ⟨p, ctx⟩⟩ := x
  · rfl
  · simp only [andThen]
    rcases (f d p ctx).result with e | ⟨q, c⟩
    · rfl
    · simp only [Log.append_assoc]

/-- What comes of **one hook**: where it has nothing to say the path and the context stay. -/
def alone (h : Host) (hook : Hook) (d : Disk) (p : Path) (ctx : Context) : Passed :=
  ⟨(hook.call h d p ctx).disk, (hook.call h d p ctx).log,
    (hook.call h d p ctx).result.map fun left => left.getD (p, ctx)⟩

/-- The first hook runs, and then the others on what it has left. -/
theorem runAll_cons (hook : Hook) (hooks : List Hook) (d : Disk) (p : Path) (ctx : Context) :
    runAll h (hook :: hooks) d p ctx = (alone h hook d p ctx).andThen (runAll h hooks) := by
  rw [runAll, alone, Passed.andThen]
  rcases (hook.call h d p ctx).result with e | left <;> rfl

/-- **Hooks of two lists** run like those of the first list, and then those of the second on what
these have left. -/
theorem runAll_append (done rest : List Hook) (d : Disk) (p : Path) (ctx : Context) :
    runAll h (done ++ rest) d p ctx = (runAll h done d p ctx).andThen (runAll h rest) := by
  induction done generalizing d p ctx with
  | nil => simp [runAll, Passed.andThen, Log.empty_append]
  | cons hook done ih =>
    have hrest : runAll h (done ++ rest) =
        fun d p ctx => (runAll h done d p ctx).andThen (runAll h rest) := by
      funext d p ctx
      exact ih d p ctx
    rw [List.cons_append, runAll_cons, runAll_cons, Passed.andThen_assoc, hrest]

/-- Hooks **fail at one of them**: those before it have passed, and left a path and a context that it
fails on. -/
structure FailsAt (h : Host) (hooks : List Hook) (d : Disk) (p : Path) (ctx : Context)
    (done : List Hook) (hook : Hook) (q : Path) (left : Context) (e : Error) : Prop where
  behind : ∃ rest, hooks = done ++ hook :: rest
  passed : (runAll h done d p ctx).result = .ok (q, left)
  fails : (hook.call h (runAll h done d p ctx).disk q left).result = .error e

/-- What comes of hooks that fail at one of them, **whatever hooks are behind it**. -/
def stoppedAt (h : Host) (done : List Hook) (d : Disk) (p : Path) (ctx : Context) (hook : Hook)
    (q : Path) (left : Context) (e : Error) : Passed :=
  ⟨(hook.call h (runAll h done d p ctx).disk q left).disk,
    (runAll h done d p ctx).log.append (hook.call h (runAll h done d p ctx).disk q left).log, .error e⟩

/-- **No hook behind** one that fails makes a difference. -/
theorem FailsAt.runAll_eq {hooks done : List Hook} {hook : Hook} {q : Path} {left : Context}
    {e : Error} (hfails : FailsAt h hooks d p ctx done hook q left e) (more : List Hook) :
    runAll h (done ++ hook :: more) d p ctx = stoppedAt h done d p ctx hook q left e := by
  have halone : (alone h hook (runAll h done d p ctx).disk q left).result = .error e := by
    rw [alone, hfails.fails]
    rfl
  rw [runAll_append, Passed.andThen, hfails.passed]
  simp only [runAll_cons, Passed.andThen, halone]
  rfl

/-- **Hooks that fail** fail at one of them. -/
theorem exists_failsAt {e : Error} {hooks : List Hook}
    (hfail : (runAll h hooks d p ctx).result = .error e) :
    ∃ done hook q left, FailsAt h hooks d p ctx done hook q left e := by
  induction hooks using List.reverseRecOn with
  | nil => simp [runAll] at hfail
  | append_singleton hooks last ih =>
    rcases hdone : (runAll h hooks d p ctx).result with x | ⟨q, left⟩
    · have hx : x = e := by
        rw [runAll_append, Passed.andThen, hdone] at hfail
        exact Except.error.inj hfail
      obtain ⟨done, hook, q, left, ⟨rest, hrest⟩, hpassed, hfails⟩ := ih (hx ▸ hdone)
      exact ⟨done, hook, q, left, ⟨rest ++ [last], by rw [hrest, List.append_assoc]; rfl⟩, hpassed,
        hfails⟩
    · refine ⟨hooks, last, q, left, ⟨[], rfl⟩, hdone, ?_⟩
      rw [runAll_append, Passed.andThen, hdone] at hfail
      simp only [runAll_cons, Passed.andThen] at hfail
      rcases hcall : (last.call h (runAll h hooks d p ctx).disk q left).result with x | y
      · simp only [alone, hcall, Except.map] at hfail
        rw [Except.error.inj hfail]
      · simp [alone, hcall, Except.map, runAll] at hfail

end Hook

/-! ## Creations -/

namespace Recipe

variable {r : Recipe} {h : Host} {d : Disk} {base override : Option Path} {extra : Context}

/-- The recipe with **other hooks**. -/
def withHooks (r : Recipe) (preHooks postHooks : List Hook) : Recipe :=
  { r with preHooks := preHooks, postHooks := postHooks }

@[simp] theorem withHooks_self (r : Recipe) : r.withHooks r.preHooks r.postHooks = r := rfl

/-- Hooks do not say where a creation **starts**. -/
@[simp] theorem start_withHooks (pre post : List Hook) :
    (r.withHooks pre post).start d base override extra = r.start d base override extra := rfl

/-- Hooks do not say what is **written** once they are run. -/
@[simp] theorem writeAt_withHooks (pre post : List Hook) (p : Path) (ctx : Context) :
    (r.withHooks pre post).writeAt d p ctx = r.writeAt d p ctx := rfl

/-- What comes of the hooks **before** the writing, once the path and the context are found. -/
def before (r : Recipe) (h : Host) (d : Disk) (start : Path × Context) : Hook.Passed :=
  Hook.runAll h r.preHooks d start.1 start.2

/-- What comes of the hooks **behind** the writing. -/
def behind (r : Recipe) (h : Host) (d : Disk) (p : Path) (ctx : Context) : Hook.Passed :=
  Hook.runAll h r.postHooks d p ctx

/-- A creation **comes to its writing**: its hooks have left a path and a context. -/
structure Writes (r : Recipe) (h : Host) (d : Disk) (base override : Option Path) (extra : Context)
    (start : Path × Context) (p : Path) (ctx : Context) : Prop where
  starts : r.start d base override extra = .ok start
  passes : (r.before h d start).result = .ok (p, ctx)

/-- A creation has **written** its layout, and comes to the hooks behind it. -/
structure Written (r : Recipe) (h : Host) (d : Disk) (base override : Option Path)
    (extra : Context) (start : Path × Context) (p : Path) (ctx : Context) (written : Disk)
    (tree : Tree) : Prop extends Writes r h d base override extra start p ctx where
  writes : r.writeAt (r.before h d start).disk p ctx = (written, .ok tree)

/-- A layout that **is written** has been taken through all its steps. -/
theorem runAll_of_writeAt {p : Path} {ctx : Context} {e : Disk} {tree : Tree}
    (hwrite : r.writeAt d p ctx = (e, .ok tree)) :
    Step.runAll d (r.scriptAt d p ctx) = (e, .ok ()) := by
  rw [writeAt] at hwrite
  rw [scriptAt]
  rcases hsplit : splitRoot p with fault | ⟨parent, name⟩
  · simp [hsplit] at hwrite
  · simp only [hsplit] at hwrite ⊢
    rw [← Node.materialize_eq_script, hwrite]
    rfl

/-- **The phases of a creation.**  Where one fails, no hook of a later one makes a difference, and
the disk stays as the phase has left it. -/
structure Phases (r : Recipe) (h : Host) (d : Disk) (base override : Option Path)
    (extra : Context) : Prop where
  /-- Without a context or a path nothing is done. -/
  unstarted {e : Error} : r.start d base override extra = .error e →
    ∀ pre post, (r.withHooks pre post).create h d base override extra = ⟨d, .empty, .error e⟩
  /-- Where a hook before the writing fails, the disk stays as that hook has left it. -/
  refused {start : Path × Context} {e : Error} : r.start d base override extra = .ok start →
    (r.before h d start).result = .error e →
    ∃ done hook p ctx, Hook.FailsAt h r.preHooks d start.1 start.2 done hook p ctx e ∧
      ∀ more post, (r.withHooks (done ++ hook :: more) post).create h d base override extra =
        ⟨(hook.call h (Hook.runAll h done d start.1 start.2).disk p ctx).disk,
          (Hook.stoppedAt h done d start.1 start.2 hook p ctx e).log, .error e⟩
  /-- Where the hooks have left no root, the disk stays as they have left it. -/
  rootless {start : Path × Context} {p : Path} {ctx : Context} {e : Error} :
    r.Writes h d base override extra start p ctx → splitRoot p = .error e →
    ∀ post, (r.withHooks r.preHooks post).create h d base override extra =
      ⟨(r.before h d start).disk, (r.before h d start).log, .error e⟩
  /-- Where the writing fails, the steps of the layout up to the one that fails are all that is
  done to the disk that the hooks have left. -/
  unwritten {start : Path × Context} {p : Path} {ctx : Context} {written : Disk} {e : Error} :
    r.Writes h d base override extra start p ctx →
    r.writeAt (r.before h d start).disk p ctx = (written, .error e) →
    written = (Step.runAll (r.before h d start).disk
      (r.scriptAt (r.before h d start).disk p ctx)).1 ∧
    ∀ post, (r.withHooks r.preHooks post).create h d base override extra =
      ⟨written, (r.before h d start).log, .error e⟩
  /-- Where a hook behind the writing fails, all steps of the layout are taken, no record is added,
  and what stands anywhere stays, but where the hooks change it. -/
  interrupted {start : Path × Context} {p : Path} {ctx : Context} {written : Disk} {tree : Tree}
    {e : Error} : r.Written h d base override extra start p ctx written tree →
    (r.behind h written p ctx).result = .error e →
    Step.runAll (r.before h d start).disk (r.scriptAt (r.before h d start).disk p ctx) =
      (written, .ok ()) ∧
    (∃ done hook q left, Hook.FailsAt h r.postHooks written p ctx done hook q left e ∧
      ∀ more, (r.withHooks r.preHooks (done ++ hook :: more)).create h d base override extra =
        ⟨(hook.call h (Hook.runAll h done written p ctx).disk q left).disk,
          (r.before h d start).log.append (Hook.stoppedAt h done written p ctx hook q left e).log,
          .error e⟩) ∧
    ∀ loc, Hook.AllSpare h loc r.postHooks written p ctx →
      (r.create h d base override extra).disk.look loc = written.look loc
  /-- Where the record cannot be added, the disk stays as the hooks have left it. -/
  unrecorded {start : Path × Context} {p root : Path} {ctx left : Context} {written after : Disk}
    {tree : Tree} {e : Error} : r.Written h d base override extra start p ctx written tree →
    (r.behind h written p ctx).result = .ok (root, left) →
    (r.record h left).add (r.behind h written p ctx).disk root = (after, .error e) →
    r.create h d base override extra = ⟨(r.behind h written p ctx).disk,
      (r.before h d start).log.append (r.behind h written p ctx).log, .error e⟩
  /-- Otherwise the root is the path that the last hook has left, and the batch file in it has a
  record with the context that this hook has left, behind the entries that are there. -/
  created {start : Path × Context} {p root : Path} {ctx left : Context} {written after : Disk}
    {tree : Tree} : r.Written h d base override extra start p ctx written tree →
    (r.behind h written p ctx).result = .ok (root, left) →
    (r.record h left).add (r.behind h written p ctx).disk root = (after, .ok ()) →
    r.create h d base override extra = ⟨after,
      (r.before h d start).log.append (r.behind h written p ctx).log, .ok ⟨root, tree⟩⟩ ∧
    ∃ vs, batchEntries? ((r.behind h written p ctx).disk.look
        (batchLocation (after.place root))) = some vs ∧
      Disk.Sets (r.behind h written p ctx).disk (batchLocation (after.place root))
        (.file (Yaml.Value.seq (vs ++ [(r.record h left).toValue])).text.toUTF8) after

/-! ### One phase after the other -/

section

variable {start : Path × Context} {p : Path} {ctx : Context} {written : Disk} {tree : Tree}
  {e : Error}

/-- **Up to the writing** a creation runs its first hooks. -/
theorem create_of_start (hstart : r.start d base override extra = .ok start) (pre post : List Hook) :
    (r.withHooks pre post).create h d base override extra =
      match (Hook.runAll h pre d start.1 start.2).result with
      | .error e => ⟨(Hook.runAll h pre d start.1 start.2).disk,
          (Hook.runAll h pre d start.1 start.2).log, .error e⟩
      | .ok (p, ctx) =>
        match r.writeAt (Hook.runAll h pre d start.1 start.2).disk p ctx with
        | (written, .error e) => ⟨written, (Hook.runAll h pre d start.1 start.2).log, .error e⟩
        | (written, .ok tree) => (r.withHooks pre post).finish h
            (Hook.runAll h pre d start.1 start.2).log written p ctx tree := by
  rw [create, start_withHooks, hstart]
  rfl

/-- Where the writing **fails** no hook behind it makes a difference. -/
theorem Writes.create_eq (hwrites : r.Writes h d base override extra start p ctx)
    (hwrite : r.writeAt (r.before h d start).disk p ctx = (written, .error e)) (post : List Hook) :
    (r.withHooks r.preHooks post).create h d base override extra =
      ⟨written, (r.before h d start).log, .error e⟩ := by
  rw [before] at hwrite
  rw [create_of_start hwrites.starts, ← before, hwrites.passes, before]
  simp only [hwrite]

/-- Where the layout **is written** the hooks behind it, and the record, are what remains. -/
theorem Written.create_eq (hwritten : r.Written h d base override extra start p ctx written tree)
    (post : List Hook) : (r.withHooks r.preHooks post).create h d base override extra =
      (r.withHooks r.preHooks post).finish h (r.before h d start).log written p ctx tree := by
  have hwrite := hwritten.writes
  rw [before] at hwrite
  rw [create_of_start hwritten.starts, ← before, hwritten.passes, before]
  simp only [hwrite]

/-- Where a hook behind the writing **fails**, that is the end of it. -/
theorem Written.interrupted (hwritten : r.Written h d base override extra start p ctx written tree)
    {post : List Hook} (hfail : (Hook.runAll h post written p ctx).result = .error e) :
    (r.withHooks r.preHooks post).create h d base override extra =
      ⟨(Hook.runAll h post written p ctx).disk,
        (r.before h d start).log.append (Hook.runAll h post written p ctx).log, .error e⟩ := by
  rw [hwritten.create_eq, finish]
  simp only [withHooks, hfail]

/-- Where the hooks behind the writing **pass**, the record is what remains. -/
theorem Written.recorded (hwritten : r.Written h d base override extra start p ctx written tree)
    {root : Path} {left : Context} {after : Disk} {result : Except Error Unit}
    (hpassed : (r.behind h written p ctx).result = .ok (root, left))
    (hadd : (r.record h left).add (r.behind h written p ctx).disk root = (after, result)) :
    r.create h d base override extra = ⟨after,
      (r.before h d start).log.append (r.behind h written p ctx).log,
      result.map fun _ => ⟨root, tree⟩⟩ := by
  have hcreate := hwritten.create_eq r.postHooks
  rw [withHooks_self, finish, ← behind, hpassed] at hcreate
  rw [hcreate]
  simp only [hadd]
  cases result <;> rfl

end

/-- **Every creation runs in phases.**  Its hooks run in order, each on the disk, the path and the
context that the one before has left, where a hook that has nothing to say leaves the path and the
context it was given; those of two lists run like those of the first, and then those of the second
on what these have left.  What each phase of the creation leaves where it fails is known. -/
theorem create_phases (r : Recipe) (h : Host) (d : Disk) (base override : Option Path)
    (extra : Context) :
    (∀ hook hooks d p ctx, Hook.runAll h (hook :: hooks) d p ctx =
      (Hook.alone h hook d p ctx).andThen (Hook.runAll h hooks)) ∧
    (∀ done rest d p ctx, Hook.runAll h (done ++ rest) d p ctx =
      (Hook.runAll h done d p ctx).andThen (Hook.runAll h rest)) ∧
    r.Phases h d base override extra := by
  refine ⟨fun hook hooks d p ctx => Hook.runAll_cons hook hooks d p ctx,
    fun done rest d p ctx => Hook.runAll_append done rest d p ctx, ?_⟩
  constructor
  case unstarted =>
    intro e hstart pre post
    rw [create, start_withHooks, hstart]
  case refused =>
    intro start e hstart hfail
    obtain ⟨done, hook, p, ctx, hfails⟩ := Hook.exists_failsAt hfail
    refine ⟨done, hook, p, ctx, hfails, fun more post => ?_⟩
    rw [create_of_start hstart, hfails.runAll_eq]
    rfl
  case rootless =>
    intro start p ctx e hwrites hsplit post
    have hwrite : r.writeAt (r.before h d start).disk p ctx =
        ((r.before h d start).disk, .error e) := by rw [writeAt, hsplit]
    exact hwrites.create_eq hwrite post
  case unwritten =>
    intro start p ctx written e hwrites hwrite
    refine ⟨?_, hwrites.create_eq hwrite⟩
    rw [← writeAt_disk, hwrite]
  case interrupted =>
    intro start p ctx written tree e hwritten hfail
    refine ⟨runAll_of_writeAt hwritten.writes, ?_, fun loc hspare => ?_⟩
    · obtain ⟨done, hook, q, left, hfails⟩ := Hook.exists_failsAt hfail
      refine ⟨done, hook, q, left, hfails, fun more => ?_⟩
      have hstop := hfails.runAll_eq more
      rw [hwritten.interrupted (by rw [hstop]; rfl), hstop]
      rfl
    · have hcreate := hwritten.interrupted hfail
      rw [withHooks_self] at hcreate
      rw [hcreate]
      exact Hook.runAll_look hspare
  case unrecorded =>
    intro start p root ctx left written after tree e hwritten hpassed hadd
    rw [hwritten.recorded hpassed hadd, BatchRecord.add_eq_error hadd]
    rfl
  case created =>
    intro start p root ctx left written after tree hwritten hpassed hadd
    obtain ⟨vs, hentries, hsets⟩ := BatchRecord.add_eq_ok hadd
    have hplace := Disk.place_congr hsets.workDir root
    exact ⟨hwritten.recorded hpassed hadd, vs, hplace ▸ hentries, hplace ▸ hsets⟩

/-- A recipe for one file, with a hook behind the writing that refuses to go on. -/
def torn : Recipe := Call.oneFile [] [Call.refusing]

/-- Whatever hooks are behind the one that refuses, the file is **there**, and no record. -/
theorem create_phases_torn : ∃ after log e,
    (after.readText ⟨"/w/d/f"⟩).toOption = some "x" ∧
    after.pathExists ⟨"/w/d/.recipe-batch.yaml"⟩ = false ∧
    ∀ more, (torn.withHooks [] (Call.refusing :: more)).create ⟨[], none, "now", 2024⟩
      (Disk.bare ["w"]) (some ⟨"/w"⟩) none [] = ⟨after, log, .error e⟩ := by
  obtain ⟨ctx, hstart, hread, hbatch, hwritten⟩ : ∃ ctx,
      torn.start (Disk.bare ["w"]) (some ⟨"/w"⟩) none [] = .ok (⟨"/w/d"⟩, ctx) ∧
      ((torn.writeAt (Disk.bare ["w"]) ⟨"/w/d"⟩ ctx).1.readText ⟨"/w/d/f"⟩).toOption = some "x" ∧
      (torn.writeAt (Disk.bare ["w"]) ⟨"/w/d"⟩ ctx).1.pathExists ⟨"/w/d/.recipe-batch.yaml"⟩ =
        false ∧
      (torn.writeAt (Disk.bare ["w"]) ⟨"/w/d"⟩ ctx).2.toOption.isSome = true :=
    ⟨_, rfl, by decide +kernel, by decide +kernel, by decide +kernel⟩
  rcases hwrite : torn.writeAt (Disk.bare ["w"]) ⟨"/w/d"⟩ ctx with ⟨written, x | tree⟩
  · rw [hwrite] at hwritten
    simp [Except.toOption] at hwritten
  rw [hwrite] at hread hbatch
  obtain ⟨-, ⟨done, hook, q, left, ⟨⟨rest, hrest⟩, -, -⟩, hmore⟩, -⟩ :=
    (create_phases torn ⟨[], none, "now", 2024⟩ (Disk.bare ["w"]) (some ⟨"/w"⟩) none
      []).2.2.interrupted ⟨⟨hstart, rfl⟩, hwrite⟩ (e := .git) rfl
  -- The hook that refuses is the only one behind the writing, so it is the one that fails.
  obtain rfl : done = [] := by
    rcases List.singleton_eq_append_iff.mp hrest with ⟨hdone, -⟩ | ⟨-, hnone⟩
    · exact hdone
    · simp at hnone
  obtain ⟨rfl, -⟩ := List.cons.inj hrest
  exact ⟨_, _, _, hread, hbatch, hmore⟩

end Recipe

end Scaffold
