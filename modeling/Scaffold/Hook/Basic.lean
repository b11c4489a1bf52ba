import Scaffold.Shell.Run

/-!
# Hook/Basic — what runs around the creation of a recipe

A hook sees the disk, the path and the context, and may change all three.  `Hook.runAll` runs hooks in
order, each on the path and the context that the one before has left; a hook that has nothing to say
keeps both, and one that fails keeps the rest from running.
-/

namespace Scaffold

/-- What is **said** on the way: warnings, and what programs print. -/
structure Log where
  warnings : List String
  output : String
  errors : String

namespace Log

/-- Nothing is said. -/
def empty : Log := ⟨[], "", ""⟩

/-- A warning. -/
def warning (s : String) : Log := ⟨[s], "", ""⟩

/-- What is said first, and what is said then. -/
def append (a b : Log) : Log := ⟨a.warnings ++ b.warnings, a.output ++ b.output, a.errors ++ b.errors⟩

end Log

namespace Hook

/-- What comes of a hook: the disk, what was said, and a new path and context if it has any. -/
structure Outcome where
  disk : Disk
  log : Log
  result : Except Error (Option (Path × Context))

/-- The outcome of a hook that changes nothing. -/
def Outcome.nothing (d : Disk) : Outcome := ⟨d, .empty, .ok none⟩

/-- The outcome of a hook that only fails. -/
def Outcome.failed (d : Disk) (e : Error) : Outcome := ⟨d, .empty, .error e⟩

end Hook

/-- A **hook**. -/
structure Hook where
  call : Host → Disk → Path → Context → Hook.Outcome

namespace Hook

/-- What comes of running hooks: the disk, what was said, and the path and context they leave. -/
structure Passed where
  disk : Disk
  log : Log
  result : Except Error (Path × Context)

/-- **Runs** hooks in order. -/
def runAll (h : Host) : List Hook → Disk → Path → Context → Passed
  | [], d, p, ctx => ⟨d, .empty, .ok (p, ctx)⟩
  | hook :: hooks, d, p, ctx =>
    let o := hook.call h d p ctx
    match o.result with
    | .error e => ⟨o.disk, o.log, .error e⟩
    | .ok left =>
      let (p, ctx) := left.getD (p, ctx)
      let rest := runAll h hooks o.disk p ctx
      { rest with log := o.log.append rest.log }

end Hook

end Scaffold
