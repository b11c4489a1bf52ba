import Scaffold.Recipe.Record

/-!
# Recipe/Create — from a recipe to files

`Recipe.create` runs the hooks of the recipe before and after it writes the layout, and then adds a record
with the context that the hooks have left.  A failure ends the creation and takes nothing back.
-/

namespace Scaffold.Recipe

/-- What was **created**: the root as the hooks have left it, and what was written. -/
structure Creation where
  path : Path
  tree : Tree

/-- What comes of a creation: the disk, what was said, and what was created. -/
structure Outcome where
  disk : Disk
  log : Log
  result : Except Error Creation

/-- The parent and the name of a root. -/
def splitRoot (p : Path) : Except Error (Path × Path) :=
  match p.parent?, p.fileName? with
  | some parent, some name => .ok (parent, ⟨name⟩)
  | _, _ => .error (.check (.noRoot p.text))

/-- The path and the context a creation starts with. -/
def start (r : Recipe) (d : Disk) (base override : Option Path) (extra : Context) :
    Except Error (Path × Context) :=
  match r.combined extra with
  | .error e => .error e
  | .ok ctx => (r.pathIn d base override ctx).map fun p => (p, ctx)

/-- The record of a creation. -/
def record (r : Recipe) (h : Host) (ctx : Context) : BatchRecord :=
  ⟨ctx, toolVersion, h.time, r.info⟩

/-- Writes the layout at a path. -/
def writeAt (r : Recipe) (d : Disk) (p : Path) (ctx : Context) : Disk × Except Error Tree :=
  match splitRoot p with
  | .error e => (d, .error e)
  | .ok (parent, name) => r.root.toNode.materialize r.renderer ctx (some name) parent d

/-- What remains to do once the layout is written. -/
def finish (r : Recipe) (h : Host) (log : Log) (d : Disk) (p : Path) (ctx : Context)
    (tree : Tree) : Outcome :=
  let after := Hook.runAll h r.postHooks d p ctx
  let log := log.append after.log
  match after.result with
  | .error e => ⟨after.disk, log, .error e⟩
  | .ok (p, ctx) =>
    match (r.record h ctx).add after.disk p with
    | (d, .error e) => ⟨d, log, .error e⟩
    | (d, .ok ()) => ⟨d, log, .ok ⟨p, tree⟩⟩

/-- **Creates** the recipe. -/
def create (r : Recipe) (h : Host) (d : Disk) (base override : Option Path) (extra : Context) :
    Outcome :=
  match r.start d base override extra with
  | .error e => ⟨d, .empty, .error e⟩
  | .ok (p, ctx) =>
    let before := Hook.runAll h r.preHooks d p ctx
    match before.result with
    | .error e => ⟨before.disk, before.log, .error e⟩
    | .ok (p, ctx) =>
      match r.writeAt before.disk p ctx with
      | (d, .error e) => ⟨d, before.log, .error e⟩
      | (d, .ok tree) => r.finish h before.log d p ctx tree

end Scaffold.Recipe
