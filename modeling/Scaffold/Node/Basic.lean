import Scaffold.Node.Name
import Scaffold.Node.Content

/-!
# Node/Basic — files and folders of a layout

A layout is a tree of nodes: files with a source, folders with children.  The children of a folder
have distinct identifiers, where they have one; `Folder.of` and every operation that changes the
children refuse to break that.  A key addresses a child by its identifier, or else by its name, if
that does not depend on the context.
-/

namespace Scaffold

/-- A **node** of a layout. -/
inductive Node where
  | file (id : Option String) (name : Name) (source : Source)
  | folder (id : Option String) (name : Name) (contents : List Node)
deriving Inhabited

namespace Node

/-- The identifier among siblings. -/
def id? : Node → Option String
  | .file id _ _ => id
  | .folder id _ _ => id

/-- The name. -/
def name : Node → Name
  | .file _ name _ => name
  | .folder _ name _ => name

/-- Whether the node is a folder. -/
def isFolder : Node → Bool
  | .folder .. => true
  | .file .. => false

/-- Gives the node an identifier. -/
def withId (id : String) : Node → Node
  | .file _ name source => .file (some id) name source
  | .folder _ name contents => .folder (some id) name contents

/-- The path of the node below a base.  An override takes the place of the name, whatever it is. -/
def path (r : Renderer) (d : Disk) (context : Context) (override : Option Path) (base : Path)
    (name : Name) : Except Error (Option Path) :=
  match override with
  | some p => .ok (some (base.join p))
  | none => (name.resolve r d context).map fun s => s.map base.joinName

end Node

/-- A **folder** of a layout. -/
structure Folder where
  id : Option String
  name : Name
  contents : List Node
deriving Inhabited

/-- The folder as a node. -/
def Folder.toNode (f : Folder) : Node := .folder f.id f.name f.contents

/-- The folder that a node is. -/
def Node.folder? : Node → Option Folder
  | .folder id name contents => some ⟨id, name, contents⟩
  | .file .. => none

namespace Folder

/-- The first identifier that has occurred before. -/
def repeatedId? (seen : List String) : List Node → Option String
  | [] => none
  | n :: ns =>
    match n.id? with
    | none => repeatedId? seen ns
    | some id => if seen.contains id then some id else repeatedId? (id :: seen) ns

/-- A folder with some contents. -/
def of (name : Name) (contents : List Node) : Except Error Folder :=
  match repeatedId? [] contents with
  | some id => .error (.duplicateId id)
  | none => .ok ⟨none, name, contents⟩

/-- The position of the child that a key addresses. -/
def index? (f : Folder) (key : String) : Option Nat :=
  match f.contents.findIdx? fun n => n.id? == some key with
  | some i => some i
  | none => f.contents.findIdx? fun n => n.name.static? == some key

/-- The position of a child, which has to be there. -/
def index (f : Folder) (key : String) : Except Error Nat :=
  match f.index? key with
  | some i => .ok i
  | none => .error (.nodeNotFound key)

/-- The child that a key addresses. -/
def get (f : Folder) (key : String) : Except Error Node :=
  match (f.index? key).bind (f.contents[·]?) with
  | some n => .ok n
  | none => .error (.nodeNotFound key)

/-- Whether another child than the one at `except` has the identifier of a node. -/
def taken (f : Folder) (n : Node) (except : Option Nat) : Option String :=
  n.id?.filter fun id =>
    f.contents.zipIdx.any fun c => some c.2 != except && c.1.id? == some id

/-- Appends a child. -/
def push (f : Folder) (n : Node) : Except Error Folder :=
  match f.taken n none with
  | some id => .error (.duplicateId id)
  | none => .ok { f with contents := f.contents ++ [n] }

/-- Puts a child in the place of the one that a key addresses, or appends it. -/
def set (f : Folder) (key : String) (n : Node) : Except Error Folder :=
  match f.index? key with
  | none => f.push n
  | some i =>
    match f.taken n (some i) with
    | some id => .error (.duplicateId id)
    | none => .ok { f with contents := f.contents.set i n }

/-- Appends children up to the first that is refused. -/
def extend (f : Folder) : List Node → Folder × Except Error Unit
  | [] => (f, .ok ())
  | n :: ns =>
    match f.push n with
    | .ok f' => extend f' ns
    | .error e => (f, .error e)

/-- The folder that a key addresses. -/
def child (f : Folder) (key : String) : Except Error Folder :=
  match f.get key with
  | .error e => .error e
  | .ok n =>
    match n.folder? with
    | some g => .ok g
    | none => .error (.nodeNotFound (key ++ " (folder)"))

/-- The folder that keys lead to, one level after the other. -/
def follow (f : Folder) : List String → Except Error Folder
  | [] => .ok f
  | key :: keys =>
    match f.child key with
    | .error e => .error e
    | .ok g => g.follow keys

/-- **Changes** the folder that keys lead to, and passes on what the change answers.  Where the keys lead to
no folder nothing changes. -/
def change {α : Type} (f : Folder) (act : Folder → Folder × Except Error α) :
    List String → Folder × Except Error α
  | [] => act f
  | key :: keys =>
    match f.index key, f.child key with
    | .error e, _ => (f, .error e)
    | _, .error e => (f, .error e)
    | .ok i, .ok g =>
      let (g, answer) := g.change act keys
      ({ f with contents := f.contents.set i g.toNode }, answer)

end Folder

end Scaffold
