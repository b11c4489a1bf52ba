/-!
# Text/Split — cutting text at separators

`splitChar` cuts at every occurrence of one character, `splitOnce?` at the first one; `splitText` cuts
at every occurrence of a text, the empty text standing between any two characters and at both ends.
`joinWith` undoes the first and the last.
-/

namespace Scaffold.Text

/-- Cuts at every occurrence of a character; there is always at least one piece. -/
def splitChar (sep : Char) : List Char → List (List Char)
  | [] => [[]]
  | c :: cs =>
    if c = sep then [] :: splitChar sep cs
    else
      match splitChar sep cs with
      | [] => [[c]]
      | p :: ps => (c :: p) :: ps

/-- The parts before and after the first occurrence of a character. -/
def splitOnce? (sep : Char) : List Char → Option (List Char × List Char)
  | [] => none
  | c :: cs =>
    if c = sep then some ([], cs)
    else (splitOnce? sep cs).map fun p => (c :: p.1, p.2)

/-- What is behind the first occurrence is **shorter** than the text. -/
theorem length_of_splitOnce? {sep : Char} : ∀ {cs front back : List Char},
    splitOnce? sep cs = some (front, back) → back.length < cs.length
  | [], _, _, h => nomatch h
  | c :: cs, front, back, h => by
    rw [splitOnce?] at h
    split at h
    · obtain ⟨-, rfl⟩ := Prod.mk.inj (Option.some.inj h)
      exact Nat.lt_succ_self _
    · obtain ⟨⟨_, _⟩, hrest, hpair⟩ := Option.map_eq_some_iff.mp h
      obtain ⟨-, rfl⟩ := Prod.mk.inj hpair
      exact Nat.lt_succ_of_lt (length_of_splitOnce? hrest)

/-- Pieces rejoined with a separator between them. -/
def joinWith (sep : List Char) : List (List Char) → List Char
  | [] => []
  | [p] => p
  | p :: q :: ps => p ++ sep ++ joinWith sep (q :: ps)

/-- Cuts at every occurrence of a nonempty text; `skip` characters still belong to a separator. -/
def splitRun (sep : List Char) : Nat → List Char → List (List Char)
  | _, [] => [[]]
  | skip + 1, _ :: cs => splitRun sep skip cs
  | 0, c :: cs =>
    if sep.isPrefixOf (c :: cs) then [] :: splitRun sep (sep.length - 1) cs
    else
      match splitRun sep 0 cs with
      | [] => [[c]]
      | p :: ps => (c :: p) :: ps

/-- Cuts at every occurrence of a text.  The empty text occurs before, between and after all
characters. -/
def splitText (sep cs : List Char) : List (List Char) :=
  if sep.isEmpty then [] :: cs.map (fun c => [c]) ++ [[]] else splitRun sep 0 cs

/-- Replaces every occurrence of a text. -/
def replaceText (old new cs : List Char) : List Char := joinWith new (splitText old cs)

/-- Whether a text occurs in another. -/
def occursIn (needle : List Char) : List Char → Bool
  | [] => needle.isEmpty
  | c :: cs => needle.isPrefixOf (c :: cs) || occursIn needle cs

/-- Pieces of a string, cut at a character. -/
def split (sep : Char) (s : String) : List String := (splitChar sep s.toList).map String.ofList

/-- Strings rejoined with a separator between them. -/
def join (sep : String) (xs : List String) : String :=
  String.ofList (joinWith sep.toList (xs.map String.toList))

end Scaffold.Text
