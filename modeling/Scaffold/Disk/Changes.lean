import Scaffold.Disk.Basic

/-!
# Disk/Changes — two disks compared, and a disk put together

`Disk.changes` lists what one disk holds and another does not, parents before their children; written in
that order it turns the one into the other, as nothing ever goes away.  `Disk.stations` lists the places a
walk along a path passes: a disk that agrees with another at these answers the same for the path.
-/

namespace Scaffold.Disk

/-- Whether a path leads to a like entry: to the same bytes, or to a directory. -/
def holds (d : Disk) (p : Path) (e : Entry) : Bool :=
  match d.stat? p, e with
  | some (.dir _), .dir _ => true
  | some (.file a), .file b => a.data == b.data
  | _, _ => false

/-- Everything on the disk, with absolute paths. -/
def everything (d : Disk) : List (String × Entry) :=
  match d.root with
  | .dir cs => listing "/" cs
  | .file _ => []

/-- What `after` holds and the disk does **not**. -/
def changes (before after : Disk) : List (String × Entry) :=
  after.everything.filter fun e => !before.holds ⟨e.1⟩ e.2

/-- The places pieces lead along, from a place. -/
def stationsFrom (here : Location) : List (List Char) → List Location
  | [] => []
  | piece :: rest =>
    let next :=
      if piece = [] || piece = ['.'] then here
      else if piece = ['.', '.'] then here.dropLast
      else here ++ [String.ofList piece]
    next :: stationsFrom next rest

/-- The places a walk along a path **passes**. -/
def stations (d : Disk) (p : Path) : List Location :=
  stationsFrom (if p.isAbsolute then [] else d.workDir) (Text.splitChar '/' p.text.toList)

/-- The absolute path of a location. -/
def absolute (loc : Location) : String := "/" ++ Text.join "/" loc

/-- Directories along a location, each inside the one before. -/
def makeAlong (e : Entry) : Location → Entry
  | [] => e
  | n :: loc => .dir [(n, makeAlong e loc)]

/-- The disk that holds nothing but the working directory. -/
def bare (workDir : Location) : Disk := ⟨makeAlong (.dir []) workDir, workDir⟩

end Scaffold.Disk
