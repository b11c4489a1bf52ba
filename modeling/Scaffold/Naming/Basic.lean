import Scaffold.Error

/-!
# Naming/Basic — which names repositories may have

A name is cut at delimiters into parts, and the parts are matched level by level against a grammar: a
word ends the match, a branch leads on to its own level.  Without a grammar, or with an empty one, every
name is allowed and none is cut.  The repository is named by the parts joined with one separator, which
is always a delimiter itself.
-/

namespace Scaffold

/-- An **entry** of a grammar: a word, or words that lead on to levels of their own. -/
inductive Segment where
  | word (text : String)
  | branch (levels : List (String × List Segment))
deriving Inhabited

/-- A **grammar**: the entries of its first level. -/
abbrev Grammar := List Segment

/-- How a mismatch is **enforced**. -/
inductive Enforcement where
  | strict
  | warn
  | none
deriving DecidableEq, Repr, Inhabited

/-- The ways of enforcing by name. -/
def Enforcement.known : List (String × Enforcement) :=
  [("strict", .strict), ("warn", .warn), ("none", .none)]

/-- The name of a way of enforcing. -/
def Enforcement.name : Enforcement → String
  | .strict => "strict"
  | .warn => "warn"
  | .none => "none"

/-- The **naming rules** of a set of repositories. -/
structure Naming where
  options : Option Grammar
  delimiters : List String
  separator : String
deriving Inhabited

namespace Naming

/-- The delimiters where none are given. -/
def defaultDelimiters : List String := [".", ",", "-"]

/-- The separator where none is given. -/
def defaultSeparator : String := "-"

/-- **Naming rules** with some delimiters; the separator becomes one of them. -/
def of (options : Option Grammar) (delimiters : List String) (separator : String) :
    Except Error Naming :=
  if separator.isEmpty then .error (.naming .emptySeparator)
  else if delimiters.any String.isEmpty then .error (.naming .emptyDelimiter)
  else if delimiters.contains separator then .ok ⟨options, delimiters, separator⟩
  else .ok ⟨options, delimiters ++ [separator], separator⟩

/-- Naming rules with the default delimiters. -/
def ofOptions (options : Option Grammar) : Except Error Naming :=
  of options defaultDelimiters defaultSeparator

/-- The grammar, if it constrains anything. -/
def constraints? (n : Naming) : Option Grammar := n.options.filter fun g => !g.isEmpty

/-! ## Parts -/

/-- The first delimiter, in order, that a text starts with. -/
def delimiterAt? (delimiters : List (List Char)) (cs : List Char) : Option (List Char) :=
  delimiters.find? fun d => d.isPrefixOf cs

/-- Cuts at delimiters, from left to right; `skip` characters still belong to one. -/
def cut (delimiters : List (List Char)) : Nat → List Char → List (List Char)
  | _, [] => [[]]
  | skip + 1, _ :: cs => cut delimiters skip cs
  | 0, c :: cs =>
    match delimiterAt? delimiters (c :: cs) with
    | some d => [] :: cut delimiters (d.length - 1) cs
    | none =>
      match cut delimiters 0 cs with
      | [] => [[c]]
      | p :: ps => (c :: p) :: ps

/-- The **parts** of a name. -/
def parts (n : Naming) (name : String) : List String :=
  match n.constraints? with
  | some _ => (cut (n.delimiters.map String.toList) 0 name.toList).map String.ofList
  | none => [name]

/-- The name of the **repository**: the parts joined with the separator. -/
def repoName (n : Naming) (name : String) : String := Text.join n.separator (n.parts name)

/-! ## Matching -/

/-- The place in a sentence where the word for a level goes. -/
def levelMark : List Char := "\x7bkey\x7d".toList

/-- Replaces the first occurrence of a text. -/
def replaceFirst (old new : List Char) : List Char → List Char
  | [] => if old.isEmpty then new else []
  | c :: cs =>
    if old.isPrefixOf (c :: cs) then new ++ (c :: cs).drop old.length
    else c :: replaceFirst old new cs

/-- Names the level a sentence is about. -/
def nameLevel (level : String) (sentence : String) : String :=
  String.ofList (replaceFirst levelMark level.toList sentence.toList)

/-- The delimiters as a sentence shows them. -/
def shownDelimiters (n : Naming) : String :=
  "[" ++ Text.join ", " (n.delimiters.map fun d => "'" ++ d ++ "'") ++ "]"

/-- The sentence for a part that no entry of its level allows. -/
def mismatch (n : Naming) (seen : List String) : String :=
  "Does not match valid names for " ++ String.ofList levelMark ++ ": " ++ Text.join ", " seen ++
    ", with delimiters: " ++ n.shownDelimiters

/-- What comes of trying the **entries** of a level: a match, a mismatch further down with its
sentence, or else the words that were tried. -/
inductive Tried where
  | matched
  | refused (sentence : String)
  | missed (seen : List String)

/-- The sentence for a level that was tried, if it did not match. -/
def Tried.sentence? (n : Naming) : Tried → Option String
  | .matched => none
  | .refused sentence => some sentence
  | .missed seen => some (n.mismatch seen)

mutual

/-- Tries the entries of a level in order. -/
def tryEntries (n : Naming) (parts : List String) : List Segment → List String → Tried
  | [], seen => .missed seen
  | .word w :: level, seen =>
    if parts.head? = some w then .matched else tryEntries n parts level (seen ++ [w])
  | .branch levels :: level, seen =>
    match tryLevels n parts levels seen with
    | .missed seen => tryEntries n parts level seen
    | result => result

/-- Tries the words of a branch in order. -/
def tryLevels (n : Naming) (parts : List String) : List (String × List Segment) → List String → Tried
  | [], seen => .missed seen
  | (w, level) :: levels, seen =>
    if parts.head? = some w then
      match (tryEntries n parts.tail level []).sentence? n with
      | none => .matched
      | some sentence => .refused (nameLevel w sentence)
    else tryLevels n parts levels (seen ++ [w])

end

/-- **Matches** parts against a level; a mismatch comes with its sentence. -/
def matchLevel (n : Naming) (parts : List String) (level : Grammar) : Option String :=
  (tryEntries n parts level []).sentence? n

/-- The outcome of checking a name. -/
inductive Verdict where
  | unconstrained
  | matched
  | mismatch (sentence : String)
deriving DecidableEq, Repr

/-- Whether a name passes. -/
def Verdict.passes : Verdict → Bool
  | .mismatch _ => false
  | _ => true

/-- The sentence for an outcome. -/
def Verdict.message : Verdict → String
  | .unconstrained => "no constraints set"
  | .matched => "ok"
  | .mismatch sentence => sentence

/-- **Checks** a name against the grammar. -/
def check (n : Naming) (name : String) : Verdict :=
  match n.constraints? with
  | none => .unconstrained
  | some level =>
    match n.matchLevel (n.parts name) level with
    | none => .matched
    | some sentence => .mismatch (nameLevel "<root>" sentence)

/-- The warning for a name that does not pass. -/
def warning (name sentence : String) : String :=
  "Name '" ++ name ++ "' is not in the namespace: " ++ sentence

/-- **Enforces** the grammar on a name: what is warned about, and whether the name may stand. -/
def enforce (n : Naming) (level : Enforcement) (name : String) : List String × Except Error Unit :=
  match n.check name, level with
  | .mismatch sentence, .strict => ([], .error (.check (.repositoryName name sentence)))
  | .mismatch sentence, .warn => ([warning name sentence], .ok ())
  | _, _ => ([], .ok ())

end Naming

end Scaffold
