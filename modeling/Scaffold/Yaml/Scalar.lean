import Scaffold.Yaml.Cursor
import Scaffold.Number.Literal

/-!
# Yaml/Scalar — the three spellings of a text

A text is plain, quoted or a block.  Plain and quoted texts fold: a line break between two words is a
space, and of several breaks the first is dropped (`fold`).  A block keeps its lines, or folds those
that start with no blank.
-/

namespace Scaffold.Yaml

/-- Line breaks between two words, **folded**. -/
def fold : List Char → List Char
  | [] => []
  | ['\n'] => [' ']
  | '\n' :: more => more
  | breaks => breaks

/-- What stands between two words. -/
structure Gap where
  blanks : List Char
  breaks : List Char
  /-- Whether a line ends in the gap. -/
  crossed : Bool

/-- The characters a gap stands for. -/
def Gap.text (g : Gap) : List Char := if g.crossed then fold g.breaks else g.blanks

/-- Reads a gap.  Past a line end, a tab left of `limit` is refused. -/
def gapFrom (limit : Nat) : Nat → Cursor → Gap → Option (Gap × Cursor)
  | 0, c, g => some (g, c)
  | fuel + 1, c, g =>
    match c.breakLine? with
    | some (x, after) => gapFrom limit fuel after ⟨[], g.breaks ++ [x], true⟩
    | none =>
      match c.peek? with
      | some x =>
        if !isBlank x then some (g, c)
        else if g.crossed then
          if x = '\t' && c.column < limit then none else gapFrom limit fuel c.next g
        else gapFrom limit fuel c.next { g with blanks := g.blanks ++ [x] }
      | none => some (g, c)

/-- Reads a gap from its start. -/
def readGap (limit : Nat) (c : Cursor) : Option (Gap × Cursor) :=
  gapFrom limit (c.rest.length + 1) c ⟨[], [], false⟩

/-! ## Plain -/

/-- The marks that end a plain text inside brackets. -/
def isFlowMark (c : Char) : Bool :=
  c = ',' || c = '[' || c = ']' || c = '\x7b' || c = '\x7d'

/-- How long a **word** of a plain text is.  Inside brackets, a colon before a mark is refused. -/
def wordLength? (flow : Bool) : List Char → Option Nat
  | [] => some 0
  | c :: cs =>
    if isGap c then some 0
    else if flow && c = ':' && cs.head?.any (fun x => x = '?' || isFlowMark x) then none
    else if c = ':' && gapNext cs || flow && isFlowMark c then some 0
    else (wordLength? flow cs).map (· + 1)

/-- A text that was read, what follows it, and whether a line end came before what follows. -/
structure Scalar where
  text : List Char
  after : Cursor
  crossed : Bool

/-- Reads the words of a plain text; `gap` came before the next one. -/
def plainFrom (flow : Bool) (limit : Nat) : Nat → Cursor → Gap → Option Scalar
  | 0, c, gap => some ⟨[], c, gap.crossed⟩
  | fuel + 1, c, gap =>
    if c.atBoundary || c.sees '#' then some ⟨[], c, gap.crossed⟩
    else
      match wordLength? flow c.rest with
      | none => none
      | some 0 => some ⟨[], c, gap.crossed⟩
      | some n =>
        let here := gap.text ++ c.rest.take n
        match readGap limit (c.skip n) with
        | none => none
        | some (gap, after) =>
          if !flow && after.column < limit then some ⟨here, after, gap.crossed⟩
          else (plainFrom flow limit fuel after gap).map fun s => { s with text := here ++ s.text }

/-- Reads a **plain** text; its further lines start at column `limit` or later. -/
def readPlain (flow : Bool) (limit : Nat) (c : Cursor) : Option Scalar :=
  plainFrom flow limit (c.rest.length + 1) c ⟨[], [], false⟩

/-! ## Quoted -/

/-- The character a one-letter escape stands for. -/
def escaped? : Char → Option Char
  | '0' => some '\x00'
  | 'a' => some '\x07'
  | 'b' => some '\x08'
  | 't' => some '\t'
  | '\t' => some '\t'
  | 'n' => some '\n'
  | 'v' => some '\x0b'
  | 'f' => some '\x0c'
  | 'r' => some '\r'
  | 'e' => some '\x1b'
  | ' ' => some ' '
  | '"' => some '"'
  | '/' => some '/'
  | '\\' => some '\\'
  | 'N' => some '\u0085'
  | '_' => some '\u00a0'
  | 'L' => some '\u2028'
  | 'P' => some '\u2029'
  | _ => none

/-- How many digits an escape by number has. -/
def escapeDigits? : Char → Option Nat
  | 'x' => some 2
  | 'u' => some 4
  | 'U' => some 8
  | _ => none

/-- The character of a number, if it is one. -/
def charOf? (n : Nat) : Option Char := if n.isValidChar then some (Char.ofNat n) else none

/-- Reads what follows a backslash: a character, and how long its escape is. -/
def escape? : List Char → Option (Char × Nat)
  | [] => none
  | c :: cs =>
    match escaped? c, escapeDigits? c with
    | some x, _ => some (x, 1)
    | none, some n =>
      if cs.length < n then none
      else ((Literal.readNat? 16 (cs.take n)).bind charOf?).map fun x => (x, n + 1)
    | none, none => none

/-- A stretch of a quoted text up to a gap or the closing quote; `joined` after an escaped line end. -/
structure Stretch where
  text : List Char
  after : Cursor
  joined : Bool

/-- Puts a character before a stretch. -/
def Stretch.cons (x : Char) (s : Stretch) : Stretch := { s with text := x :: s.text }

/-- Reads a stretch of a text in double quotes. -/
def doubleFrom : Nat → Cursor → Option Stretch
  | 0, c => some ⟨[], c, false⟩
  | fuel + 1, c =>
    match c.rest with
    | [] => some ⟨[], c, false⟩
    | '"' :: _ => some ⟨[], c, false⟩
    | '\\' :: cs =>
      match c.next.breakLine? with
      | some (_, after) => some ⟨[], after, true⟩
      | none =>
        match escape? cs with
        | none => none
        | some (x, n) => (doubleFrom fuel (c.skip (n + 1))).map (·.cons x)
    | x :: _ => if isGap x then some ⟨[], c, false⟩ else (doubleFrom fuel c.next).map (·.cons x)

/-- Reads a stretch of a text in single quotes; a doubled quote stands for one. -/
def singleFrom : Nat → Cursor → Stretch
  | 0, c => ⟨[], c, false⟩
  | fuel + 1, c =>
    match c.rest with
    | '\'' :: '\'' :: _ => (singleFrom fuel (c.skip 2)).cons '\''
    | '\'' :: _ => ⟨[], c, false⟩
    | [] => ⟨[], c, false⟩
    | x :: _ => if isGap x then ⟨[], c, false⟩ else (singleFrom fuel c.next).cons x

/-- Reads a stretch of a quoted text. -/
def readStretch (quote : Char) (c : Cursor) : Option Stretch :=
  if quote = '"' then doubleFrom (c.rest.length + 1) c else some (singleFrom (c.rest.length + 1) c)

/-- Reads a quoted text behind its opening quote. -/
def quotedFrom (quote : Char) : Nat → Cursor → Option (List Char × Cursor)
  | 0, _ => none
  | fuel + 1, c =>
    if c.atBoundary || c.rest.isEmpty then none
    else
      match readStretch quote c with
      | none => none
      | some s =>
        if s.after.sees quote then some (s.text, s.after.next)
        else
          match gapFrom 0 (s.after.rest.length + 1) s.after ⟨[], [], s.joined⟩ with
          | none => none
          | some (gap, after) =>
            let here := s.text ++ if s.joined then gap.breaks else gap.text
            (quotedFrom quote fuel after).map fun (text, after) => (here ++ text, after)

/-- Reads a **quoted** text. -/
def readQuoted (quote : Char) (c : Cursor) : Option (List Char × Cursor) :=
  quotedFrom quote (c.rest.length + 1) c.next

/-! ## Block -/

/-- What becomes of the line breaks at the end of a block. -/
inductive Chomp where
  | strip
  | clip
  | keep
deriving DecidableEq

/-- The header of a block: how its end is cut, and how far it is indented if it says so. -/
structure BlockHeader where
  chomp : Chomp
  indent? : Option Nat

/-- Reads a sign of how the end is cut. -/
def readChomp (c : Cursor) : Option Chomp × Cursor :=
  if c.sees '+' then (some .keep, c.next)
  else if c.sees '-' then (some .strip, c.next)
  else (none, c)

/-- Reads the digit of an indentation; zero is refused. -/
def readIndent (c : Cursor) : Option (Option Nat × Cursor) :=
  match c.peek? with
  | some x =>
    if x = '0' then none
    else if x.isDigit then some (some (x.toNat - '0'.toNat), c.next)
    else some (none, c)
  | none => some (none, c)

/-- Reads the header of a block up to its first line. -/
def readHeader (c : Cursor) : Option (BlockHeader × Cursor) :=
  let (before, c) := readChomp c
  match readIndent c with
  | none => none
  | some (indent?, c) =>
    let (behind, c) := if before.isNone && indent?.isSome then readChomp c else (none, c)
    c.endLine?.map fun c => (⟨(before.orElse fun _ => behind).getD .clip, indent?⟩, c)

/-- Reads indentation and empty lines.  With no `indent?` yet, every space counts as indentation;
`widest` is the widest seen.  A tab in the indentation is refused. -/
def blankLines (indent? : Option Nat) : Nat → Cursor → List Char → Nat →
    Option (List Char × Nat × Cursor)
  | 0, c, breaks, widest => some (breaks, widest, c)
  | fuel + 1, c, breaks, widest =>
    let spaces := (c.span (· = ' ')).1.length
    let c :=
      match indent? with
      | some n => c.skip (min spaces (n - c.column))
      | none => c.skip spaces
    let inside := indent?.all fun n => c.column < n
    let widest := max widest c.column
    if inside && c.sees '\t' then none
    else
      match c.breakLine? with
      | some (x, after) => blankLines indent? fuel after (breaks ++ [x]) widest
      | none => some (breaks, widest, c)

/-- Reads a line break if there is one. -/
def optionalBreak (c : Cursor) : List Char × Cursor :=
  match c.breakLine? with
  | some (x, after) => ([x], after)
  | none => ([], c)

/-- Whether a blank comes next. -/
def blankNext (c : Cursor) : Bool := c.peek?.any isBlank

/-- Reads the lines of a block.  `lead` is the break before the next line, `breaks` are the empty lines
after it, `wasBlank` tells whether the last line started with a blank. -/
def blockFrom (literal : Bool) (chomp : Chomp) (indent : Nat) : Nat → Cursor → List Char →
    List Char → Bool → Option (List Char × Cursor)
  | 0, _, _, _, _ => none
  | fuel + 1, c, lead, breaks, wasBlank =>
    if c.column = indent && !c.rest.isEmpty then
      let folded :=
        if !literal && lead == ['\n'] && !wasBlank && !blankNext c then
          if breaks.isEmpty then [' '] else []
        else lead
      let (line, rest) := c.span fun x => !isBreak x
      let (nextLead, rest) := optionalBreak rest
      match blankLines (some indent) (rest.rest.length + 1) rest [] 0 with
      | none => none
      | some (nextBreaks, _, after) =>
        (blockFrom literal chomp indent fuel after nextLead nextBreaks (blankNext c)).map
          fun (text, after) => (folded ++ breaks ++ line ++ text, after)
    else
      match chomp with
      | .strip => some ([], c)
      | .clip => some (lead, c)
      | .keep => some (lead ++ breaks, c)

/-- Reads a **block** behind its mark; `outer` is the least column of its lines. -/
def readBlock (literal : Bool) (outer : Nat) (c : Cursor) : Option (List Char × Cursor) :=
  match readHeader c with
  | none => none
  | some (header, c) =>
    let given := header.indent?.map fun n => outer - 1 + n
    match blankLines given (c.rest.length + 1) c [] 0 with
    | none => none
    | some (breaks, widest, c) =>
      let indent := given.getD (max widest (max outer 1))
      blockFrom literal header.chomp indent (c.rest.length + 1) c [] breaks false

end Scaffold.Yaml
