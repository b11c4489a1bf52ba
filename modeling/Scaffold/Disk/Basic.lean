import Scaffold.Path.Basic

/-!
# Disk/Basic — directories, files and how paths reach them

A `Disk` is a tree of directories with a working directory.  A path is walked piece by piece from the
root or from the working directory (`Disk.walk`): dots and `..` are places, every piece but the last
must be a directory.  Reading never changes the disk; `writeFile`, `makeDir` and `remove` answer the
changed disk or the fault, and a fault changes nothing.  `makeDirs` creates what is missing of a
directory and its ancestors and keeps what it created when it fails halfway.
-/

namespace Scaffold

/-- Why a disk operation **failed**. -/
inductive DiskFault where
  | notFound
  | isADirectory
  | notADirectory
  | alreadyExists
  | invalidData
  | nameTooLong
  | invalidInput
deriving DecidableEq, Repr

/-- The system's sentence for a fault. -/
def DiskFault.message : DiskFault → String
  | .notFound => "No such file or directory (os error 2)"
  | .isADirectory => "Is a directory (os error 21)"
  | .notADirectory => "Not a directory (os error 20)"
  | .alreadyExists => "File exists (os error 17)"
  | .invalidData => "stream did not contain valid UTF-8"
  | .nameTooLong => "File name too long (os error 36)"
  | .invalidInput => "file name contained an unexpected NUL byte"

/-- The word for the kind of a fault. -/
def DiskFault.kind : DiskFault → String
  | .notFound => "NotFound"
  | .isADirectory => "IsADirectory"
  | .notADirectory => "NotADirectory"
  | .alreadyExists => "AlreadyExists"
  | .invalidData => "InvalidData"
  | .nameTooLong => "InvalidFilename"
  | .invalidInput => "InvalidInput"

/-- What a **place** on the disk holds. -/
inductive Entry where
  | file (bytes : ByteArray)
  | dir (children : List (String × Entry))

instance : Inhabited Entry := ⟨.dir []⟩

/-- The names that lead from the root to a place. -/
abbrev Location := List String

namespace Entry

/-- Whether the place is a directory. -/
def isDir : Entry → Bool
  | .dir _ => true
  | .file _ => false

/-- The child of a list of children under a name. -/
def child? : List (String × Entry) → String → Option Entry
  | [], _ => none
  | (n, e) :: cs, name => if n = name then some e else child? cs name

/-- Replaces the child under a name, or appends it. -/
def setChild : List (String × Entry) → String → Entry → List (String × Entry)
  | [], name, e => [(name, e)]
  | (n, old) :: cs, name, e => if n = name then (name, e) :: cs else (n, old) :: setChild cs name e

/-- What is at a location below. -/
def at? : Entry → Location → Option Entry
  | e, [] => some e
  | .file _, _ :: _ => none
  | .dir cs, n :: loc =>
    match child? cs n with
    | some e => at? e loc
    | none => none

/-- Puts an entry at a location whose parent is a directory; elsewhere nothing changes. -/
def put : Entry → Location → Entry → Entry
  | _, [], new => new
  | .file b, _ :: _, _ => .file b
  | .dir cs, [n], new => .dir (setChild cs n new)
  | .dir cs, n :: m :: loc, new =>
    match child? cs n with
    | some e => .dir (setChild cs n (put e (m :: loc) new))
    | none => .dir cs

/-- Removes what is at a location. -/
def cut : Entry → Location → Entry
  | e, [] => e
  | .file b, _ :: _ => .file b
  | .dir cs, [n] => .dir (cs.filter fun c => c.1 ≠ n)
  | .dir cs, n :: m :: loc =>
    match child? cs n with
    | some e => .dir (setChild cs n (cut e (m :: loc)))
    | none => .dir cs

end Entry

/-- A **disk** and the working directory relative paths start from. -/
structure Disk where
  root : Entry
  workDir : Location

instance : Inhabited Disk := ⟨⟨.dir [], []⟩⟩

/-- Where a walk along a path **ends**. -/
inductive Spot where
  /-- Something is there. -/
  | present (loc : Location) (entry : Entry)
  /-- The parent is a directory without that name. -/
  | absent (parent : Location) (name : String)

namespace Disk

/-- What is at a location. -/
def at? (d : Disk) (loc : Location) : Option Entry := d.root.at? loc

/-- The longest name, in bytes. -/
def maxName : Nat := 255

/-- The longest path, in bytes, a final zero byte counted. -/
def maxPath : Nat := 4096

/-- Walks pieces from a place; `here` is the location walked to so far, `entry` what is there. -/
def walkFrom (d : Disk) : Location → Entry → List (List Char) → Except DiskFault Spot
  | here, entry, [] => .ok (.present here entry)
  | here, entry, piece :: rest =>
    if piece = [] then walkFrom d here entry rest
    else if !entry.isDir then .error .notADirectory
    else if piece = ['.'] then walkFrom d here entry rest
    else if piece = ['.', '.'] then
      let up := here.dropLast
      walkFrom d up ((d.at? up).getD default) rest
    else
      let name := String.ofList piece
      if name.utf8ByteSize > maxName then .error .nameTooLong
      else
        match entry.at? [name] with
        | some e => walkFrom d (here ++ [name]) e rest
        | none =>
          if rest.all (fun p => p.isEmpty) then .ok (.absent here name) else .error .notFound

/-- Whether a path ends in a slash, so that only a directory can be meant. -/
def wantsDir (p : Path) : Bool := p.text.toList.getLast? = some '/'

/-- Follows a path from the root or from the working directory. -/
def walk (d : Disk) (p : Path) : Except DiskFault Spot :=
  if p.text.toList.contains '\x00' then .error .invalidInput
  else if p.text.isEmpty then .error .notFound
  else if p.text.utf8ByteSize ≥ maxPath then .error .nameTooLong
  else
    let start := if p.isAbsolute then [] else d.workDir
    match d.at? start with
    | none => .error .notFound
    | some entry => walkFrom d start entry (Text.splitChar '/' p.text.toList)

/-- What a path leads to. -/
def stat (d : Disk) (p : Path) : Except DiskFault Entry :=
  match d.walk p with
  | .error e => .error e
  | .ok (.absent _ _) => .error .notFound
  | .ok (.present _ entry) =>
    if wantsDir p && !entry.isDir then .error .notADirectory else .ok entry

/-- What a path leads to, if anything. -/
def stat? (d : Disk) (p : Path) : Option Entry := (d.stat p).toOption

/-- Whether a path leads anywhere. -/
def pathExists (d : Disk) (p : Path) : Bool := (d.stat? p).isSome

/-- Whether a path leads to a directory. -/
def isDirectory (d : Disk) (p : Path) : Bool := (d.stat? p).any Entry.isDir

/-- The bytes of a file. -/
def readBytes (d : Disk) (p : Path) : Except DiskFault ByteArray :=
  match d.stat p with
  | .error e => .error e
  | .ok (.dir _) => .error .isADirectory
  | .ok (.file bytes) => .ok bytes

/-- The text of a file. -/
def readText (d : Disk) (p : Path) : Except DiskFault String :=
  match d.readBytes p with
  | .error e => .error e
  | .ok bytes =>
    match String.fromUTF8? bytes with
    | some s => .ok s
    | none => .error .invalidData

/-- Puts an entry at a location. -/
def put (d : Disk) (loc : Location) (e : Entry) : Disk := { d with root := d.root.put loc e }

/-- Writes a file, in a directory that exists. -/
def writeFile (d : Disk) (p : Path) (bytes : ByteArray) : Except DiskFault Disk :=
  match d.walk p with
  | .error e => .error e
  | .ok (.present loc entry) =>
    if entry.isDir || wantsDir p then .error .isADirectory else .ok (d.put loc (.file bytes))
  | .ok (.absent parent name) =>
    if wantsDir p then .error .isADirectory else .ok (d.put (parent ++ [name]) (.file bytes))

/-- Creates one directory, in a directory that exists. -/
def makeDir (d : Disk) (p : Path) : Except DiskFault Disk :=
  match d.walk p with
  | .error e => .error e
  | .ok (.present _ _) => .error .alreadyExists
  | .ok (.absent parent name) => .ok (d.put (parent ++ [name]) (.dir []))

/-- Creates a directory with its missing ancestors: the directory is tried first, and where its
parent is missing the parent is created before a second try. -/
def makeDirsFrom (d : Disk) (p : Path) : Nat → Disk × Except DiskFault Unit
  | 0 => (d, .error .notFound)
  | fuel + 1 =>
    if p.text.isEmpty then (d, .ok ())
    else
      match d.makeDir p with
      | .ok d' => (d', .ok ())
      | .error .notFound =>
        match p.parent? with
        | none => (d, .error .notFound)
        | some parent =>
          match makeDirsFrom d parent fuel with
          | (d', .error e) => (d', .error e)
          | (d', .ok ()) =>
            match d'.makeDir p with
            | .ok d'' => (d'', .ok ())
            | .error e => (d', if d'.isDirectory p then .ok () else .error e)
      | .error e => (d, if d.isDirectory p then .ok () else .error e)

/-- Creates a directory with its missing ancestors. -/
def makeDirs (d : Disk) (p : Path) : Disk × Except DiskFault Unit :=
  makeDirsFrom d p (p.text.length + 1)

/-- Removes a file, or a directory with all it holds. -/
def remove (d : Disk) (p : Path) : Except DiskFault Disk :=
  match d.walk p with
  | .error e => .error e
  | .ok (.absent _ _) => .error .notFound
  | .ok (.present loc entry) =>
    if wantsDir p && !entry.isDir then .error .notADirectory
    else .ok { d with root := d.root.cut loc }

/-- The absolute path of the working directory. -/
def workPath (d : Disk) : Path := ⟨"/" ++ Text.join "/" d.workDir⟩

mutual

/-- Every entry below a list of children, with the names that lead to it. -/
def listing (trail : String) : List (String × Entry) → List (String × Entry)
  | [] => []
  | (n, e) :: cs => entryListing (trail ++ n) e ++ listing trail cs

/-- An entry and everything below it. -/
def entryListing (path : String) : Entry → List (String × Entry)
  | .file b => [(path, .file b)]
  | .dir cs => (path, .dir cs) :: listing (path ++ "/") cs

end

/-- Everything below the working directory. -/
def ls (d : Disk) : List (String × Entry) :=
  match d.at? d.workDir with
  | some (.dir cs) => listing "" cs
  | _ => []

end Disk

end Scaffold
