import Scaffold.Node.Content

/-!
# Node/Tree — what rendering a node yields

A `Tree` lists rendered files and folders by path, in order, every place once.  Adding a place that is
there already keeps its path and its position and replaces what it holds.
-/

namespace Scaffold

/-- A rendered file or folder. -/
inductive Rendered where
  | file (content : Content)
  | folder (children : List (Path × Rendered))
deriving Inhabited

/-- Rendered entries by **path**. -/
abbrev Tree := List (Path × Rendered)

namespace Tree

/-- Adds an entry. -/
def insert : Tree → Path → Rendered → Tree
  | [], p, e => [(p, e)]
  | (q, old) :: t, p, e => if q.sameAs p then (q, e) :: t else (q, old) :: insert t p e

/-- Adds the entries of another tree in turn. -/
def extend (t other : Tree) : Tree := other.foldl (fun acc e => insert acc e.1 e.2) t

/-- What is at a path on this level. -/
def get? : Tree → Path → Option Rendered
  | [], _ => none
  | (q, e) :: t, p => if q.sameAs p then some e else get? t p

mutual

/-- The first file below an entry that stands for a path. -/
def findIn (wanted : Path) (p : Path) : Rendered → Option Content
  | .file content => if p.sameAs wanted then some content else none
  | .folder children => findContent wanted children

/-- The **content** rendered for a path, anywhere in the tree. -/
def findContent (wanted : Path) : List (Path × Rendered) → Option Content
  | [] => none
  | (p, e) :: t =>
    match findIn wanted p e with
    | some content => some content
    | none => findContent wanted t

end

mutual

/-- The files below an entry. -/
def pathsIn (p : Path) : Rendered → List Path
  | .file _ => [p]
  | .folder children => filePaths children

/-- Every **file** of the tree, depth first. -/
def filePaths : List (Path × Rendered) → List Path
  | [] => []
  | (p, e) :: t => pathsIn p e ++ filePaths t

end

end Tree

/-- What a **comparison** with the disk found: every file and folder compared stands in one of the lists. -/
structure Report where
  missing : List Path
  errors : List Path
  ok : List Path
deriving Inhabited

namespace Report

/-- Nothing compared. -/
def empty : Report := ⟨[], [], []⟩

/-- Whether nothing is missing or different. -/
def isClean (r : Report) : Bool := r.missing.isEmpty && r.errors.isEmpty

/-- One report after the other. -/
def append (r s : Report) : Report :=
  ⟨r.missing ++ s.missing, r.errors ++ s.errors, r.ok ++ s.ok⟩

/-- The number of paths. -/
def size (r : Report) : Nat := r.missing.length + r.errors.length + r.ok.length

end Report

end Scaffold
