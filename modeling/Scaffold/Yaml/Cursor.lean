/-!
# Yaml/Cursor — a place in a document

A `Cursor` is what is left of a document, with the line and the column it has come to.  A character
moves it on by a column (`Cursor.next`), a line break by a line (`Cursor.breakLine?`).  Five spellings
end a line; three of them are read as the same line feed.
-/

namespace Scaffold.Yaml

/-- A **blank**: space or tab. -/
def isBlank (c : Char) : Bool := c = ' ' || c = '\t'

/-- A **line break**. -/
def isBreak (c : Char) : Bool :=
  c = '\n' || c = '\r' || c = '\u0085' || c = '\u2028' || c = '\u2029'

/-- A blank or a line break. -/
def isGap (c : Char) : Bool := isBlank c || isBreak c

/-- Whether nothing, a blank or a line break comes next. -/
def gapNext (cs : List Char) : Bool := cs.head?.all isGap

/-- A character a document may hold. -/
def isAllowed (c : Char) : Bool :=
  c = '\t' || c = '\n' || c = '\r' || c = '\u0085' || (' ' ≤ c && c ≤ '~') ||
    ('\u00a0' ≤ c && c ≤ '\ud7ff') || ('\ue000' ≤ c && c ≤ '\ufffd') || 0x10000 ≤ c.toNat

/-- A character of names: a letter or digit of the basic alphabet, a dash or a low line. -/
def isWordChar (c : Char) : Bool := c.isAlphanum || c = '_' || c = '-'

/-- A **cursor**: the rest of a document, and the place it starts at. -/
structure Cursor where
  rest : List Char
  line : Nat
  column : Nat
  index : Nat

namespace Cursor

/-- The start of a document; a byte order mark is not part of it. -/
def start (text : String) : Cursor :=
  match text.toList with
  | '\ufeff' :: cs => ⟨cs, 0, 0, 0⟩
  | cs => ⟨cs, 0, 0, 0⟩

/-- The next character. -/
def peek? (c : Cursor) : Option Char := c.rest.head?

/-- Whether a character comes next. -/
def sees (c : Cursor) (x : Char) : Bool := c.rest.head? = some x

/-- Moves over some characters of a line. -/
def skip (c : Cursor) (n : Nat) : Cursor :=
  ⟨c.rest.drop n, c.line, c.column + n, c.index + n⟩

/-- Moves over one character. -/
def next (c : Cursor) : Cursor := c.skip 1

/-- The characters that pass a test, and what follows them. -/
def span (c : Cursor) (p : Char → Bool) : List Char × Cursor :=
  let taken := c.rest.takeWhile p
  (taken, c.skip taken.length)

/-- Moves over the characters that pass a test. -/
def skipWhile (c : Cursor) (p : Char → Bool) : Cursor := (c.span p).2

/-- The next line with `n` characters moved over. -/
def toLine (c : Cursor) (n : Nat) : Cursor := ⟨c.rest.drop n, c.line + 1, 0, c.index + n⟩

/-- Reads a line break. -/
def breakLine? (c : Cursor) : Option (Char × Cursor) :=
  match c.rest with
  | '\r' :: '\n' :: _ => some ('\n', c.toLine 2)
  | x :: _ =>
    if x = '\u2028' || x = '\u2029' then some (x, c.toLine 1)
    else if isBreak x then some ('\n', c.toLine 1)
    else none
  | [] => none

/-- Whether three equal marks of a document boundary stand at the start of a line. -/
def atMarker (c : Cursor) (mark : Char) : Bool :=
  c.column = 0 && c.rest.take 3 == [mark, mark, mark] && gapNext (c.rest.drop 3)

/-- Whether a document starts or ends here. -/
def atBoundary (c : Cursor) : Bool := c.atMarker '-' || c.atMarker '.'

/-- Moves over a comment. -/
def skipComment (c : Cursor) : Cursor :=
  if c.sees '#' then c.skipWhile fun x => !isBreak x else c

/-- Moves over the rest of a line that holds nothing but blanks and a comment. -/
def endLine? (c : Cursor) : Option Cursor :=
  let c := (c.skipWhile isBlank).skipComment
  match c.breakLine? with
  | some (_, c) => some c
  | none => if c.rest.isEmpty then some c else none

end Cursor

end Scaffold.Yaml
