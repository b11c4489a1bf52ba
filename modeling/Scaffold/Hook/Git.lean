import Scaffold.Hook.Basic

/-!
# Hook/Git — a repository in the created root

`Hook.gitInit` creates a repository whose head is the initial branch: the one the context names under
`git`, or else the one the settings of the version control name, or else `main`.  A repository that is
there already stays as it is.
-/

namespace Scaffold

namespace GitSettings

/-- The blanks of a line. -/
def isBlank (c : Char) : Bool := c = ' ' || c = '\t' || c = '\r'

/-- Drops blanks at the front. -/
def dropBlanks (cs : List Char) : List Char := cs.dropWhile isBlank

/-- Drops blanks at the end. -/
def dropLastBlanks (cs : List Char) : List Char := (cs.reverse.dropWhile isBlank).reverse

/-- The letter of an escape in a value. -/
def escaped? : Char → Option Char
  | 'n' => some '\n'
  | 't' => some '\t'
  | 'b' => some '\x08'
  | '"' => some '"'
  | '\\' => some '\\'
  | _ => none

/-- Reads a value: quotes keep blanks and comment marks, blanks outside them at the end are dropped. -/
def value? (inQuotes : Bool) (kept pending : List Char) : List Char → Option (List Char)
  | [] => if inQuotes then none else some kept
  | '"' :: cs => value? (!inQuotes) (kept ++ pending) [] cs
  | '\\' :: c :: cs => (escaped? c).bind fun x => value? inQuotes (kept ++ pending ++ [x]) [] cs
  | '\\' :: [] => none
  | c :: cs =>
    if inQuotes then value? true (kept ++ [c]) [] cs
    else if c = '#' || c = ';' then some kept
    else if isBlank c then value? false kept (pending ++ [c]) cs
    else value? false (kept ++ pending ++ [c]) [] cs

/-- Whether a character may be part of a name. -/
def isNameChar (c : Char) : Bool := c.isAlphanum || c = '-'

/-- A line of settings. -/
inductive Line where
  | blank
  | group (name : String)
  | entry (key value : String)

/-- Reads a line. -/
def line? (cs : List Char) : Option Line :=
  match dropBlanks cs with
  | [] => some .blank
  | '#' :: _ => some .blank
  | ';' :: _ => some .blank
  | '[' :: cs =>
    (Text.splitOnce? ']' cs).map fun p => .group (String.ofList (p.1.map Char.toLower))
  | c :: cs =>
    let name := (c :: cs).takeWhile isNameChar
    let key := String.ofList (name.map Char.toLower)
    if !c.isAlpha then none
    else
      match dropBlanks ((c :: cs).dropWhile isNameChar) with
      | [] => some (.entry key "")
      | '=' :: cs => (value? false [] [] (dropBlanks cs)).map fun v => .entry key (String.ofList v)
      | '#' :: _ => some (.entry key "")
      | ';' :: _ => some (.entry key "")
      | _ => none

/-- The last value of a key in a group, over some lines. -/
def find (group key : String) (here : String) (found : Option String) :
    List (List Char) → Option (Option String)
  | [] => some found
  | l :: ls =>
    match line? l with
    | none => none
    | some .blank => find group key here found ls
    | some (.group name) => find group key name found ls
    | some (.entry k v) =>
      find group key here (if here == group && k == key then some v else found) ls

/-- The value of a **setting**; settings that cannot be read have none. -/
def get? (text group key : String) : Option String :=
  (find group key "" none (Text.splitChar '\n' text.toList)).join

end GitSettings

namespace Hook

/-- The branch a context names. -/
def contextBranch? (ctx : Context) : Option String :=
  ((Fields.get? ctx "git").bind fun git => git.member? "initial_branch_name").bind Json.str?

/-- The branch the settings of the version control name. -/
def settingsBranch? (h : Host) : Option String :=
  (h.gitSettings.bind fun text => GitSettings.get? text "init" "defaultbranch").filter
    fun b => !(Text.trim b.toList).isEmpty

/-- The **initial branch** of a repository. -/
def initialBranch (h : Host) (ctx : Context) : String :=
  ((contextBranch? ctx).orElse fun _ => settingsBranch? h).getD "main"

/-- The text of the head of a repository on a branch. -/
def headText (branch : String) : String :=
  if "refs/".toList.isPrefixOf branch.toList then "ref: " ++ branch ++ "\n"
  else "ref: refs/heads/" ++ branch ++ "\n"

/-- The settings of a new repository. -/
def repositorySettings : String :=
  "[core]\n\trepositoryformatversion = 0\n\tfilemode = true\n\tbare = false\n" ++
    "\tlogallrefupdates = true\n"

/-- The directories of a repository. -/
def repositoryDirs : List String :=
  ["objects/info", "objects/pack", "refs/heads", "refs/tags"]

/-- Whether a directory holds a repository. -/
def isRepository (d : Disk) (git : Path) : Bool :=
  d.isDirectory (git.joinName "objects") && d.isDirectory (git.joinName "refs") &&
    d.pathExists (git.joinName "HEAD")

/-- Creates directories in turn. -/
def makeAll (d : Disk) : List Path → Disk × Except DiskFault Unit
  | [] => (d, .ok ())
  | p :: ps =>
    match d.makeDirs p with
    | (d, .ok ()) => makeAll d ps
    | failed => failed

/-- Creates a repository in a directory. -/
def createRepository (d : Disk) (p : Path) (branch : String) : Disk × Except DiskFault Unit :=
  let git := p.joinName ".git"
  match makeAll d (git :: repositoryDirs.map git.joinName) with
  | (d, .error fault) => (d, .error fault)
  | (d, .ok ()) =>
    match d.writeFile (git.joinName "HEAD") (headText branch).toUTF8 with
    | .error fault => (d, .error fault)
    | .ok d =>
      match d.writeFile (git.joinName "config") repositorySettings.toUTF8 with
      | .error fault => (d, .error fault)
      | .ok d => (d, .ok ())

/-- The hook that **creates a repository**. -/
def gitInit : Hook where
  call h d p ctx :=
    if isRepository d (p.joinName ".git") then .nothing d
    else
      match createRepository d p (initialBranch h ctx) with
      | (d, .ok ()) => .nothing d
      | (d, .error _) => .failed d (.hook .git)

end Hook

end Scaffold
