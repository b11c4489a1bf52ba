import Scaffold.Naming.Basic

/-!
# Naming/Pattern — the pattern that finds delimiters

The delimiters of naming rules are looked for by one pattern, the alternatives of which are the delimiters
in order.  A character that stands for more than itself in a pattern is `escaped` by a backslash.
`alternatives?` reads patterns that are nothing but alternatives of plain texts.
-/

namespace Scaffold.Naming

/-- The characters that are written **with a backslash**. -/
def escapedMarks : List Char :=
  ['\\', '.', '+', '*', '?', '(', ')', '|', '[', ']', '\x7b', '\x7d', '^', '$', '#', '&', '-', '~']

/-- The characters that **stand for more** than themselves: for any character, for repetition, for groups,
classes and places. -/
def operators : List Char := ['.', '+', '*', '?', '(', ')', '[', '\x7b', '^', '$']

/-- A text as a pattern that **matches itself** alone. -/
def escaped (text : List Char) : List Char :=
  text.flatMap fun c => if escapedMarks.contains c then ['\\', c] else [c]

/-- The **pattern** of naming rules: the delimiters as alternatives. -/
def pattern (n : Naming) : List Char :=
  Text.joinWith ['|'] (n.delimiters.map fun d => escaped d.toList)

/-- Puts a character in front of the first text. -/
def consFirst (c : Char) : List (List Char) → List (List Char)
  | [] => [[c]]
  | p :: ps => (c :: p) :: ps

/-- **Reads a pattern** as alternatives of plain texts, if it is nothing else. -/
def alternatives? : List Char → Option (List (List Char))
  | [] => some [[]]
  | '|' :: cs => (alternatives? cs).map ([] :: ·)
  | '\\' :: c :: cs =>
    if escapedMarks.contains c then (alternatives? cs).map (consFirst c) else none
  | c :: cs =>
    if c = '\\' ∨ operators.contains c then none else (alternatives? cs).map (consFirst c)

end Scaffold.Naming
