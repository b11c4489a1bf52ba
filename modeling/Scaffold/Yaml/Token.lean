import Scaffold.Yaml.Scalar

/-!
# Yaml/Token — the marks and texts of a document

A document is cut into tokens (`Token.ofText?`).  Blocks are told apart by their columns: a line further
to the right opens a block, a line further to the left closes the blocks it leaves (`Lexer.roll`,
`Lexer.unroll`).  Whether a text is a key shows only at the colon behind it, so every text that could be
one is remembered (`Candidate`), and the colon puts a key token before it.  A candidate lasts to the end
of its line and for 1024 characters.
-/

namespace Scaffold.Yaml

/-- A **token** of a document. -/
inductive Token where
  | version (major minor : Nat)
  | tagHandle (handle stem : String)
  | documentStart
  | documentEnd
  | blockSequence
  | blockMapping
  | blockEnd
  | openSequence
  | closeSequence
  | openMapping
  | closeMapping
  | entry
  | comma
  | key
  | value
  | alias (name : String)
  | anchor (name : String)
  | tag (handle suffix : String)
  | scalar (text : String) (plain : Bool)
deriving DecidableEq, Inhabited

/-- A token that **may be a key**: its number, where it starts, and whether it has to be one. -/
structure Candidate where
  number : Nat
  line : Nat
  column : Nat
  index : Nat
  required : Bool

/-- The state of cutting a document into tokens. -/
structure Lexer where
  cursor : Cursor
  /-- The tokens so far, the last one first. -/
  tokens : List Token
  /-- The columns of the open blocks, the innermost first. -/
  indents : List Nat
  /-- One place for a candidate for each open bracket, and one outside. -/
  candidates : List (Option Candidate)
  /-- Whether a key may start here. -/
  keyAllowed : Bool

namespace Lexer

/-- The state at the start of a document. -/
def start (text : String) : Lexer := ⟨Cursor.start text, [], [], [none], true⟩

/-- Whether a bracket is open. -/
def inFlow (x : Lexer) : Bool := 1 < x.candidates.length

/-- The least column of lines that belong to the innermost block. -/
def limit (x : Lexer) : Nat :=
  match x.indents with
  | [] => 0
  | column :: _ => column + 1

/-- Adds a token. -/
def push (x : Lexer) (t : Token) : Lexer := { x with tokens := t :: x.tokens }

/-- Adds a token before the one with a number. -/
def pushAt (x : Lexer) (number : Nat) (t : Token) : Lexer :=
  let behind := x.tokens.length - number
  { x with tokens := x.tokens.take behind ++ t :: x.tokens.drop behind }

/-- Moves the cursor. -/
def goTo (x : Lexer) (c : Cursor) : Lexer := { x with cursor := c }

/-- Says whether a key may start next. -/
def allow (x : Lexer) (allowed : Bool) : Lexer := { x with keyAllowed := allowed }

/-! ## Blocks -/

/-- **Opens** a block at a column to the right of the innermost one, before the token with a number. -/
def roll (x : Lexer) (column number : Nat) (t : Token) : Lexer :=
  if x.inFlow || column < x.limit then x
  else { x.pushAt number t with indents := column :: x.indents }

/-- Closes blocks as long as a test holds of their columns. -/
def closeBlocks (leaves : Nat → Bool) : List Nat → List Token → List Nat × List Token
  | [], tokens => ([], tokens)
  | column :: columns, tokens =>
    if leaves column then closeBlocks leaves columns (.blockEnd :: tokens)
    else (column :: columns, tokens)

/-- **Closes** the blocks to the right of a column. -/
def unroll (x : Lexer) (column : Nat) : Lexer :=
  if x.inFlow then x
  else
    let (indents, tokens) := closeBlocks (fun c => column < c) x.indents x.tokens
    { x with indents := indents, tokens := tokens }

/-- Closes every block. -/
def unrollAll (x : Lexer) : Lexer :=
  if x.inFlow then x
  else
    let (indents, tokens) := closeBlocks (fun _ => true) x.indents x.tokens
    { x with indents := indents, tokens := tokens }

/-! ## Candidates for keys -/

/-- Forgets a candidate that has become too old; one that had to be a key is an error. -/
def refresh (c : Cursor) : Option Candidate → Option (Option Candidate)
  | none => some none
  | some k =>
    if k.line < c.line || k.index + 1024 < c.index then
      if k.required then none else some none
    else some (some k)

/-- Forgets every candidate that has become too old. -/
def refreshAll (x : Lexer) : Option Lexer :=
  (x.candidates.mapM (refresh x.cursor)).map fun cs => { x with candidates := cs }

/-- Forgets the candidate of the innermost bracket; one that had to be a key is an error. -/
def dropCandidate (x : Lexer) : Option Lexer :=
  match x.candidates with
  | some k :: cs => if k.required then none else some { x with candidates := none :: cs }
  | _ => some x

/-- Remembers what comes next as a candidate, where a key may start. -/
def saveCandidate (x : Lexer) : Option Lexer :=
  if !x.keyAllowed then some x
  else
    x.dropCandidate.map fun x =>
      let c := x.cursor
      let k : Candidate :=
        ⟨x.tokens.length, c.line, c.column, c.index, !x.inFlow && x.indents.head? == some c.column⟩
      { x with candidates := some k :: x.candidates.tail }

/-! ## Between tokens -/

/-- Moves over blanks, comments and line ends. -/
def skipGaps : Nat → Lexer → Lexer
  | 0, x => x
  | fuel + 1, x =>
    let c := x.cursor
    let c := if c.column = 0 && c.sees '\ufeff' then c.next else c
    let c := c.skipWhile fun k => k = ' ' || (k = '\t' && (x.inFlow || !x.keyAllowed))
    let c := c.skipComment
    match c.breakLine? with
    | some (_, c) => skipGaps fuel { x with cursor := c, keyAllowed := x.keyAllowed || !x.inFlow }
    | none => x.goTo c

/-! ## Directives, tags and names -/

/-- A character of tags. -/
def isTagChar (c : Char) : Bool :=
  isWordChar c || ";/?:@&=+$.!~*'()".toList.contains c

/-- Reads the byte that an escape in a tag writes. -/
def escapedByte? : List Char → Option UInt8
  | '%' :: a :: b :: _ => (Literal.readNat? 16 [a, b]).map (·.toUInt8)
  | _ => none

/-- The bytes that escapes at the front write. -/
def escapedBytes : Nat → List Char → List UInt8
  | 0, _ => []
  | n + 1, cs =>
    match escapedByte? cs with
    | some b => b :: escapedBytes n (cs.drop 3)
    | none => []

/-- How many bytes a character has by its first one. -/
def byteCount? (b : UInt8) : Option Nat :=
  if b < 0x80 then some 1
  else if b < 0xc0 then none
  else if b < 0xe0 then some 2
  else if b < 0xf0 then some 3
  else if b < 0xf8 then some 4
  else none

/-- Reads an escaped character of a tag. -/
def tagEscape? (c : Cursor) : Option (Char × Cursor) :=
  match (escapedByte? c.rest).bind byteCount? with
  | none => none
  | some n =>
    match (String.fromUTF8? (escapedBytes n c.rest).toByteArray).map String.toList with
    | some [x] => some (x, c.skip (3 * n))
    | _ => none

/-- Reads the characters of a tag; inside angle brackets more of them count. -/
def tagText (verbatim : Bool) : Nat → Cursor → Option (List Char × Cursor)
  | 0, c => some ([], c)
  | fuel + 1, c =>
    match c.peek? with
    | none => some ([], c)
    | some x =>
      if x = '%' then
        match tagEscape? c with
        | none => none
        | some (x, c) => (tagText verbatim fuel c).map fun (xs, c) => (x :: xs, c)
      else if isTagChar x || (verbatim && (x = ',' || x = '[' || x = ']')) then
        (tagText verbatim fuel c.next).map fun (xs, c) => (x :: xs, c)
      else some ([], c)

/-- Reads the characters of a tag. -/
def readTagText (verbatim : Bool) (c : Cursor) : Option (List Char × Cursor) :=
  tagText verbatim (c.rest.length + 1) c

/-- Reads a handle: a mark, and a name with a second mark if there is one. -/
def readHandle (c : Cursor) : Option (List Char × Cursor) :=
  if !c.sees '!' then none
  else
    let (name, after) := c.next.span isWordChar
    if after.sees '!' then some ('!' :: name ++ ['!'], after.next) else some ('!' :: name, after)

/-- Whether a handle has both marks. -/
def isFullHandle (handle : List Char) : Bool := 1 < handle.length && handle.getLast? == some '!'

/-- Reads the handle and the suffix of a tag. -/
def readTagParts (c : Cursor) : Option (List Char × List Char × Cursor) :=
  if (c.next).sees '<' then
    match readTagText true (c.skip 2) with
    | some (suffix, after) =>
      if suffix.isEmpty || !after.sees '>' then none else some ([], suffix, after.next)
    | none => none
  else
    match readHandle c with
    | none => none
    | some (handle, after) =>
      match readTagText false after with
      | none => none
      | some (text, after) =>
        if isFullHandle handle then
          if text.isEmpty then none else some (handle, text, after)
        else
          match handle.tail ++ text with
          | [] => some ([], ['!'], after)
          | suffix => some (['!'], suffix, after)

/-- Reads a **tag**. -/
def readTag (flow : Bool) (c : Cursor) : Option (Token × Cursor) :=
  match readTagParts c with
  | none => none
  | some (handle, suffix, after) =>
    if gapNext after.rest || (flow && after.sees ',') then
      some (.tag (String.ofList handle) (String.ofList suffix), after)
    else none

/-- Reads a **name** behind its mark. -/
def readName (c : Cursor) : Option (String × Cursor) :=
  let (name, after) := c.next.span isWordChar
  let ends := gapNext after.rest || after.peek?.any ("?:,]\x7d%@\x60".toList.contains ·)
  if name.isEmpty || !ends then none else some (String.ofList name, after)

/-- Reads a number of at most nine digits. -/
def readDigits (c : Cursor) : Option (Nat × Cursor) :=
  let (digits, after) := c.span Char.isDigit
  if 9 < digits.length then none
  else (Literal.readNat? 10 digits).map fun n => (n, after)

/-- Reads the version of the format. -/
def readVersion (c : Cursor) : Option (Token × Cursor) :=
  match readDigits c with
  | none => none
  | some (major, after) =>
    if !after.sees '.' then none
    else (readDigits after.next).map fun (minor, after) => (.version major minor, after)

/-- Reads what a tag handle stands for. -/
def readTagHandle (c : Cursor) : Option (Token × Cursor) :=
  match readHandle c with
  | none => none
  | some (handle, after) =>
    if !(isFullHandle handle || handle == ['!']) || !after.peek?.any isBlank then none
    else
      match readTagText true (after.skipWhile isBlank) with
      | none => none
      | some (stem, after) =>
        if stem.isEmpty || !gapNext after.rest then none
        else some (.tagHandle (String.ofList handle) (String.ofList stem), after)

/-- Reads a **directive**. -/
def readDirective (c : Cursor) : Option (Token × Cursor) :=
  let (name, after) := c.next.span isWordChar
  if !gapNext after.rest then none
  else
    let body := after.skipWhile isBlank
    let read :=
      if name == "YAML".toList then readVersion body
      else if name == "TAG".toList then readTagHandle body
      else none
    read.bind fun (t, after) => after.endLine?.map fun after => (t, after)

/-! ## Tokens -/

/-- Adds a token of one character. -/
def mark (x : Lexer) (t : Token) : Lexer := (x.push t).goTo x.cursor.next

/-- Adds a token of its own line, outside every block. -/
def lineToken (x : Lexer) (read : Cursor → Option (Token × Cursor)) : Option Lexer :=
  x.unrollAll.dropCandidate.bind fun x =>
    (read x.cursor).map fun (t, after) => ((x.allow false).push t).goTo after

/-- Adds a token that may be a key or stand before one. -/
def nodeToken (x : Lexer) (read : Cursor → Option (Token × Cursor)) : Option Lexer :=
  x.saveCandidate.bind fun x =>
    (read x.cursor).map fun (t, after) => ((x.allow false).push t).goTo after

/-- Opens a bracket. -/
def openFlow (x : Lexer) (t : Token) : Option Lexer :=
  x.saveCandidate.map fun x => { (x.mark t).allow true with candidates := none :: x.candidates }

/-- Closes a bracket. -/
def closeFlow (x : Lexer) (t : Token) : Option Lexer :=
  x.dropCandidate.map fun x =>
    let y := (x.mark t).allow false
    if x.inFlow then { y with candidates := x.candidates.tail } else y

/-- Adds a comma. -/
def commaToken (x : Lexer) : Option Lexer :=
  x.dropCandidate.map fun x => (x.mark .comma).allow true

/-- Opens a block at the cursor, where that is allowed. -/
def rollHere (x : Lexer) (t : Token) : Option Lexer :=
  if x.inFlow then some x
  else if !x.keyAllowed then none
  else some (x.roll x.cursor.column x.tokens.length t)

/-- Adds the dash of a list. -/
def entryToken (x : Lexer) : Option Lexer :=
  (x.rollHere .blockSequence).bind fun x =>
    x.dropCandidate.map fun x => (x.mark .entry).allow true

/-- Adds the question mark before a key. -/
def keyToken (x : Lexer) : Option Lexer :=
  (x.rollHere .blockMapping).bind fun x =>
    x.dropCandidate.map fun x => (x.mark .key).allow (!x.inFlow)

/-- Adds a colon; the candidate before it, if there is one, becomes a key. -/
def valueToken (x : Lexer) : Option Lexer :=
  match x.candidates with
  | some k :: cs =>
    let y := (x.pushAt k.number .key).roll k.column k.number .blockMapping
    some (({ y with candidates := none :: cs }.mark .value).allow false)
  | _ => (x.rollHere .blockMapping).map fun x => (x.mark .value).allow (!x.inFlow)

/-- Adds a block text. -/
def blockToken (x : Lexer) (literal : Bool) : Option Lexer :=
  x.dropCandidate.bind fun x =>
    (readBlock literal x.limit x.cursor.next).map fun (text, after) =>
      ((x.allow true).push (.scalar (String.ofList text) false)).goTo after

/-- Adds a quoted text. -/
def quotedToken (x : Lexer) (quote : Char) : Option Lexer :=
  x.nodeToken fun c =>
    (readQuoted quote c).map fun (text, after) => (.scalar (String.ofList text) false, after)

/-- Adds a plain text. -/
def plainToken (x : Lexer) : Option Lexer :=
  x.saveCandidate.bind fun x =>
    (readPlain x.inFlow x.limit x.cursor).map fun s =>
      ((x.allow s.crossed).push (.scalar (String.ofList s.text) true)).goTo s.after

/-- The marks no plain text starts with. -/
def isIndicator (c : Char) : Bool := "-?:,[]\x7b\x7d#&*!|>'\"%@\x60".toList.contains c

/-- Whether a plain text starts with a character before others. -/
def startsPlain (flow : Bool) (c : Char) (cs : List Char) : Bool :=
  !(isGap c || isIndicator c) || (c = '-' && !cs.head?.any isBlank) ||
    (!flow && (c = '?' || c = ':') && !gapNext cs)

/-- Adds the **token** that starts with a character before others. -/
def step (x : Lexer) (c : Char) (cs : List Char) : Option Lexer :=
  let flow := x.inFlow
  if x.cursor.column = 0 && c = '%' then x.lineToken readDirective
  else if x.cursor.atMarker '-' then x.lineToken fun c => some (.documentStart, c.skip 3)
  else if x.cursor.atMarker '.' then x.lineToken fun c => some (.documentEnd, c.skip 3)
  else if c = '[' then x.openFlow .openSequence
  else if c = '\x7b' then x.openFlow .openMapping
  else if c = ']' then x.closeFlow .closeSequence
  else if c = '\x7d' then x.closeFlow .closeMapping
  else if c = ',' then x.commaToken
  else if c = '-' && gapNext cs then x.entryToken
  else if c = '?' && (flow || gapNext cs) then x.keyToken
  else if c = ':' && (flow || gapNext cs) then x.valueToken
  else if c = '*' then x.nodeToken fun c => (readName c).map fun (n, c) => (.alias n, c)
  else if c = '&' then x.nodeToken fun c => (readName c).map fun (n, c) => (.anchor n, c)
  else if c = '!' then x.nodeToken (readTag flow)
  else if c = '|' && !flow then x.blockToken true
  else if c = '>' && !flow then x.blockToken false
  else if c = '\'' || c = '"' then x.quotedToken c
  else if startsPlain flow c cs then x.plainToken
  else none

/-- The tokens of what is left. -/
def run : Nat → Lexer → Option (List Token)
  | 0, _ => none
  | fuel + 1, x =>
    match (skipGaps (x.cursor.rest.length + 1) x).refreshAll with
    | none => none
    | some x =>
      let x := x.unroll x.cursor.column
      match x.cursor.rest with
      | [] => x.unrollAll.dropCandidate.map fun x => x.tokens.reverse
      | c :: cs => (x.step c cs).bind (run fuel)

end Lexer

/-- The **tokens** of a document. -/
def Token.ofText? (text : String) : Option (List Token) :=
  if (Cursor.start text).rest.all isAllowed then Lexer.run (text.length + 1) (Lexer.start text)
  else none

end Scaffold.Yaml
