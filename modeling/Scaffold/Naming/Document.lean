import Scaffold.Naming.Basic
import Scaffold.Disk.Basic
import Scaffold.Yaml.Decode
import Scaffold.Yaml.Writer

/-!
# Naming/Document — naming rules as a document

A document of naming rules is a mapping with the grammar, the delimiters and the separator; what it
leaves out has a default.  A word of the grammar is written as a text, a branch as a mapping from words
to lists.  `Naming.toValue` writes what `Naming.ofNode?` reads.
-/

namespace Scaffold

namespace Segment

/-- Sets the level under a word, in its place or at the end. -/
def putLevel (levels : List (String × List Segment)) (key : String) (level : List Segment) :
    List (String × List Segment) :=
  match levels with
  | [] => [(key, level)]
  | (k, old) :: ls => if k = key then (k, level) :: ls else (k, old) :: putLevel ls key level

/-- The word that a node means as it is written; numbers and the like are no words. -/
def wordOf? : Yaml.Node → Option String
  | .scalar tag plain s =>
    match Yaml.Value.ofScalar? tag plain s with
    | some (.str s) => some s
    | _ => none
  | _ => none

/-- Puts pairs into a branch in turn. -/
def ofPairs (pairs : List (String × List Segment)) : Segment :=
  .branch (pairs.foldl (fun acc p => putLevel acc p.1 p.2) [])

mutual

/-- Reads an entry. -/
def ofNode? : Yaml.Node → Option Segment
  | .scalar tag plain s => (wordOf? (.scalar tag plain s)).map .word
  | .map tag pairs =>
    if (Yaml.Value.ownTag? tag).isSome then none
    else (levelsOf? pairs).map ofPairs
  | .seq _ _ => none
  | .anchored _ n => ofNode? n
  | .alias _ => none

/-- Reads the entries of a level. -/
def ofItems? : List Yaml.Node → Option (List Segment)
  | [] => some []
  | n :: ns =>
    match ofNode? n, ofItems? ns with
    | some s, some ss => some (s :: ss)
    | _, _ => none

/-- Reads the words of a branch with their levels. -/
def levelsOf? : List (Yaml.Node × Yaml.Node) → Option (List (String × List Segment))
  | [] => some []
  | (k, .seq tag items) :: ps =>
    if (Yaml.Value.ownTag? tag).isSome then none
    else
      match wordOf? k, ofItems? items, levelsOf? ps with
      | some w, some level, some ls => some ((w, level) :: ls)
      | _, _, _ => none
  | _ :: _ => none

end

mutual

/-- Writes an entry. -/
def toValue : Segment → Yaml.Value
  | .word w => .str w
  | .branch levels => .map (levelValues levels)

/-- Writes the entries of a level. -/
def toValues : List Segment → List Yaml.Value
  | [] => []
  | s :: ss => toValue s :: toValues ss

/-- Writes the words of a branch with their levels. -/
def levelValues : List (String × List Segment) → List (Yaml.Value × Yaml.Value)
  | [] => []
  | (w, level) :: ls => (.str w, .seq (toValues level)) :: levelValues ls

end

end Segment

namespace Naming

/-- Reads a grammar. -/
def grammarOf? (n : Yaml.Node) : Option Grammar := n.items?.bind Segment.ofItems?

/-- Reads the parts of naming rules; the rules are not checked yet. -/
def ofNode? (n : Yaml.Node) : Option (Option Grammar × List String × String) :=
  match n.members? with
  | none => none
  | some ms =>
    match Yaml.Node.fieldOr? ms "options" (Yaml.Node.optional? grammarOf?) none,
      Yaml.Node.fieldOr? ms "delimiters" Yaml.Node.texts? defaultDelimiters,
      Yaml.Node.fieldOr? ms "repo_separator" Yaml.Node.text? defaultSeparator with
    | some options, some delimiters, some separator => some (options, delimiters, separator)
    | _, _, _ => none

/-- Reads **naming rules** from a document. -/
def ofText (text : String) : Except Error Naming :=
  match (Yaml.Node.readText? text).bind ofNode? with
  | some (options, delimiters, separator) => of options delimiters separator
  | none => .error (.naming .unreadable)

/-- The value of naming rules. -/
def toValue (n : Naming) : Yaml.Value :=
  .record [
    ("options", (n.options.map fun g => Yaml.Value.seq (Segment.toValues g)).getD .null),
    ("delimiters", .seq (n.delimiters.map .str)),
    ("repo_separator", .str n.separator)]

/-- The **document** of naming rules. -/
def text (n : Naming) : String := n.toValue.text

/-- Reads naming rules from a file. -/
def load (d : Disk) (p : Path) : Except Error Naming :=
  match d.readText p with
  | .ok text => ofText text
  | .error fault => .error (.disk fault)

end Naming

end Scaffold
