import Scaffold.Node.Basic
import Scaffold.Node.Tree

/-!
# Node/Operations — rendering, writing and checking a layout

`preview` renders what `materialize` writes; `verify` compares it with what is on the disk.  All three
resolve names on the way down and skip nodes without a path and files without content.  Writing changes
the disk up to the first failure and takes nothing back.
-/

namespace Scaffold

namespace Node

/-- The path and content of a file, if it has both. -/
def renderedFile (r : Renderer) (d : Disk) (context : Context) (override : Option Path)
    (base : Path) (name : Name) (source : Source) : Except Error (Option (Path × Content)) :=
  match path r d context override base name with
  | .error e => .error e
  | .ok none => .ok none
  | .ok (some p) => (source.render r d context).map fun c => c.map fun content => (p, content)

mutual

/-- **Renders** the node without touching the disk. -/
def preview (r : Renderer) (d : Disk) (context : Context) (override : Option Path) (base : Path) :
    Node → Except Error Tree
  | .file _ name source =>
    match renderedFile r d context override base name source with
    | .error e => .error e
    | .ok none => .ok []
    | .ok (some (p, content)) => .ok [(p, .file content)]
  | .folder _ name contents =>
    match path r d context override base name with
    | .error e => .error e
    | .ok none => .ok []
    | .ok (some p) => (previewAll r d context p [] contents).map fun ts => [(p, .folder ts)]

/-- Renders nodes below a path, adding to what is rendered. -/
def previewAll (r : Renderer) (d : Disk) (context : Context) (base : Path) (acc : Tree) :
    List Node → Except Error Tree
  | [] => .ok acc
  | n :: ns =>
    match preview r d context none base n with
    | .error e => .error e
    | .ok t => previewAll r d context base (acc.extend t) ns

end

mutual

/-- **Writes** the node to the disk. -/
def materialize (r : Renderer) (context : Context) (override : Option Path) (base : Path) :
    Disk → Node → Disk × Except Error Tree
  | d, .file _ name source =>
    match renderedFile r d context override base name source with
    | .error e => (d, .error e)
    | .ok none => (d, .ok [])
    | .ok (some (p, content)) =>
      match d.writeFile p content.toBytes with
      | .error fault => (d, .error (.disk fault))
      | .ok d => (d, .ok [(p, .file content)])
  | d, .folder _ name contents =>
    match path r d context override base name with
    | .error e => (d, .error e)
    | .ok none => (d, .ok [])
    | .ok (some p) =>
      match d.makeDirs p with
      | (d, .error fault) => (d, .error (.disk fault))
      | (d, .ok ()) =>
        match materializeAll r context p [] d contents with
        | (d, .error e) => (d, .error e)
        | (d, .ok ts) => (d, .ok [(p, .folder ts)])

/-- Writes nodes below a path, adding to what is written. -/
def materializeAll (r : Renderer) (context : Context) (base : Path) (acc : Tree) :
    Disk → List Node → Disk × Except Error Tree
  | d, [] => (d, .ok acc)
  | d, n :: ns =>
    match materialize r context none base d n with
    | (d, .error e) => (d, .error e)
    | (d, .ok t) => materializeAll r context base (acc.extend t) d ns

end

/-- Whether a file on the disk holds a content. -/
def holds (d : Disk) (p : Path) : Content → Bool
  | .text s => (d.readText p).toOption.any (· == s)
  | .bytes b => (d.readBytes p).toOption.any (· == b)

mutual

/-- **Compares** the node with the disk.  A folder comes after all it holds. -/
def verify (r : Renderer) (d : Disk) (context : Context) (override : Option Path) (base : Path) :
    Node → Except Error Report
  | .file _ name source =>
    match renderedFile r d context override base name source with
    | .error e => .error e
    | .ok none => .ok .empty
    | .ok (some (p, content)) =>
      .ok (if !d.pathExists p then ⟨[p], [], []⟩
        else if holds d p content then ⟨[], [], [p]⟩ else ⟨[], [p], []⟩)
  | .folder _ name contents =>
    match path r d context override base name with
    | .error e => .error e
    | .ok none => .ok .empty
    | .ok (some p) =>
      match verifyAll r d context p contents with
      | .error e => .error e
      | .ok inside =>
        .ok (inside.append
          (if !d.pathExists p then ⟨[p], [], []⟩
            else if d.isDirectory p && inside.isClean then ⟨[], [], [p]⟩ else ⟨[], [p], []⟩))

/-- Compares nodes below a path with the disk. -/
def verifyAll (r : Renderer) (d : Disk) (context : Context) (base : Path) :
    List Node → Except Error Report
  | [] => .ok .empty
  | n :: ns =>
    match verify r d context none base n, verifyAll r d context base ns with
    | .error e, _ => .error e
    | _, .error e => .error e
    | .ok a, .ok b => .ok (a.append b)

end

end Node

end Scaffold
