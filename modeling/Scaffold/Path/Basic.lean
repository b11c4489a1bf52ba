import Scaffold.Text.Split

/-!
# Path/Basic — file system paths

A `Path` is the text it is written with: joining never normalises.  Two paths are equal as places
(`Path.sameAs`) when their `components` agree: doubled and trailing slashes and inner dots do not
count, a leading dot and every `..` do.
-/

namespace Scaffold

/-- A **path**, kept as written. -/
structure Path where
  text : String
deriving DecidableEq, Inhabited

/-- A **component** of a path. -/
inductive Component where
  | root
  | here
  | up
  | name (s : String)
deriving DecidableEq, Inhabited

namespace Path

/-- Whether the path starts at the root. -/
def isAbsolute (p : Path) : Bool := p.text.toList.head? = some '/'

/-- The pieces between slashes, the empty piece before a leading slash left out. -/
def pieces (p : Path) : List (List Char) :=
  let ps := Text.splitChar '/' p.text.toList
  if p.isAbsolute then ps.tail else ps

/-- A piece that names a place of its own: not empty, and no dot. -/
def countsInside (piece : List Char) : Bool := !piece.isEmpty && piece ≠ ['.']

/-- Whether the first piece of a relative path counts: a leading dot does. -/
def countsFirst (p : Path) (piece : List Char) : Bool :=
  if p.isAbsolute then countsInside piece else !piece.isEmpty

/-- The component a counting piece stands for. -/
def componentOf (piece : List Char) : Component :=
  if piece = ['.'] then .here
  else if piece = ['.', '.'] then .up
  else .name (String.ofList piece)

/-- The counting pieces in order. -/
def counting (p : Path) : List (List Char) :=
  match p.pieces with
  | [] => []
  | q :: qs => (if p.countsFirst q then [q] else []) ++ qs.filter countsInside

/-- The **components** of a path. -/
def components (p : Path) : List Component :=
  (if p.isAbsolute then [.root] else []) ++ p.counting.map componentOf

/-- Equal components: the same place as far as the text tells. -/
def sameAs (p q : Path) : Bool := p.components = q.components

/-- **Joining**: an absolute path replaces the base, anything else is appended behind one slash. -/
def join (base path : Path) : Path :=
  if path.isAbsolute then path
  else if base.text.isEmpty || base.text.toList.getLast? = some '/' then ⟨base.text ++ path.text⟩
  else ⟨base.text ++ "/" ++ path.text⟩

/-- Appends a name. -/
def joinName (base : Path) (name : String) : Path := base.join ⟨name⟩

/-- Drops pieces at the end that do not count; the first piece is judged by `countsFirst`. -/
def trimEnd (p : Path) (ps : List (List Char)) : List (List Char) :=
  match ps with
  | [] => []
  | q :: qs =>
    match (qs.reverse.dropWhile fun x => !countsInside x).reverse with
    | [] => if p.countsFirst q then [q] else []
    | rest => q :: rest

/-- The path that some of the pieces write out. -/
def ofPieces (p : Path) (ps : List (List Char)) : Path :=
  ⟨String.ofList ((if p.isAbsolute then ['/'] else []) ++ Text.joinWith ['/'] ps)⟩

/-- The path without its last component; the root and the empty path have none to lose. -/
def parent? (p : Path) : Option Path :=
  match p.trimEnd p.pieces with
  | [] => none
  | ps => some (p.ofPieces (p.trimEnd ps.dropLast))

/-- The last component, if it is a name. -/
def fileName? (p : Path) : Option String :=
  match p.components.getLast? with
  | some (.name s) => some s
  | _ => none

/-- Puts another name in the place of the last one, or appends it when there is none. -/
def withFileName (p : Path) (name : String) : Path :=
  match p.fileName?, p.parent? with
  | some _, some parent => parent.joinName name
  | _, _ => p.joinName name

/-- Appends names one after the other. -/
def joinAll (p : Path) (names : List String) : Path := names.foldl joinName p

end Path

end Scaffold
