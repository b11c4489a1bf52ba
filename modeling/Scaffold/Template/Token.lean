import Scaffold.Template.Expr
import Scaffold.Number.Literal
import Scaffold.Text.Blank

/-!
# Template/Token — the tokens of a template

`scan` cuts a template into literal text and tags.  Inside a tag blanks separate tokens; a dash at
either end of a tag drops the blanks next to it; comments leave nothing; a raw tag turns everything
up to its end into text.
-/

namespace Scaffold.Template

/-- Why a template **failed**. -/
inductive Fault where
  | syntaxError
  | badEscape
  | undefinedError
  | unknownFilter
  | unknownTest
  | unknownFunction
  | unknownMethod
  | missingArgument
  | tooManyArguments
  | invalidOperation
  | cannotUnpack
  | badInclude
  | badSerialization
  | evalBlock
  /-- A template that the sources do not have. -/
  | notFound (reference : String)
  /-- A template whose source has to be looked up before rendering can go on. -/
  | needs (name : String)
deriving DecidableEq, Repr, Inhabited

/-- The word for the kind of a fault. -/
def Fault.kind : Fault → String
  | .syntaxError => "SyntaxError"
  | .badEscape => "BadEscape"
  | .undefinedError => "UndefinedError"
  | .unknownFilter => "UnknownFilter"
  | .unknownTest => "UnknownTest"
  | .unknownFunction => "UnknownFunction"
  | .unknownMethod => "UnknownMethod"
  | .missingArgument => "MissingArgument"
  | .tooManyArguments => "TooManyArguments"
  | .invalidOperation => "InvalidOperation"
  | .cannotUnpack => "CannotUnpack"
  | .badInclude => "BadInclude"
  | .badSerialization => "BadSerialization"
  | .evalBlock => "EvalBlock"
  | .notFound _ => "TemplateNotFound"
  | .needs _ => "TemplateNotFound"

/-- A **token**. -/
inductive Token where
  | text (s : String)
  | openPrint
  | closePrint
  | openTag
  | closeTag
  | name (s : String)
  | str (s : String)
  | int (n : Nat)
  | float (x : Float)
  | plus | minus | star | slash | doubleSlash | doubleStar | percent
  | bang
  | dot | comma | colon | tilde | pipe
  | assign
  | equal | notEqual | greater | greaterEqual | less | lessEqual
  | openParen | closeParen | openBracket | closeBracket | openBrace | closeBrace
deriving DecidableEq, Inhabited

/-- What a **tag** opens. -/
inductive TagKind where
  | print
  | tag
deriving DecidableEq, Inhabited

namespace Token

/-! ## Names, numbers and quoted text -/

/-- Whether a character continues a name. -/
def isNameChar (c : Char) : Bool := c.isAlphanum || c = '_'

/-- Where the scan of a number is. -/
inductive NumberState where
  | whole
  | based
  | fraction
  | exponent
  | exponentDigits
deriving DecidableEq

/-- The state after one more character of a number, if the character continues it. -/
def numberStep (base : Nat) (c : Char) : NumberState → Option NumberState
  | .whole =>
    if c = '.' then some .fraction
    else if c = 'e' ∨ c = 'E' then some .exponent
    else if c.isDigit ∨ c = '_' then some .whole else none
  | .based =>
    if c = '_' then some .based
    else if c.isDigit then some .based
    else if base = 16 ∧ (Literal.digitIn? 16 c).isSome then some .based else none
  | .fraction =>
    if c = 'e' ∨ c = 'E' then some .exponent
    else if c.isDigit ∨ c = '_' then some .fraction else none
  | .exponent =>
    if c = '+' ∨ c = '-' ∨ c.isDigit then some .exponentDigits
    else if c = '_' then some .exponent else none
  | .exponentDigits => if c.isDigit ∨ c = '_' then some .exponentDigits else none

/-- The longest run of characters that continue a number. -/
def numberRun (base : Nat) (state : NumberState) : List Char → List Char × NumberState × List Char
  | [] => ([], state, [])
  | c :: cs =>
    match numberStep base c state with
    | some next =>
      let (run, final, rest) := numberRun base next cs
      (c :: run, final, rest)
    | none => ([], state, c :: cs)

/-- The greatest integer literal. -/
def maxLiteral : Nat := Nat.pow 2 128 - 1

/-- A number; the text starts with a digit. -/
def number (cs : List Char) : Except Fault (Token × List Char) :=
  let (base, body) : Nat × List Char :=
    match cs with
    | '0' :: c :: r =>
      if c = 'b' ∨ c = 'B' then (2, r)
      else if c = 'o' ∨ c = 'O' then (8, r)
      else if c = 'x' ∨ c = 'X' then (16, r)
      else (10, cs)
    | _ => (10, cs)
  let (run, final, rest) := numberRun base (if base = 10 then .whole else .based) body
  if run.getLast? = some '_' then .error .syntaxError
  else
    let digits := run.filter (· ≠ '_')
    if final = .whole ∨ final = .based then
      match Literal.readNat? base digits with
      | some n => if n ≤ maxLiteral then .ok (.int n, rest) else .error .syntaxError
      | none => .error .syntaxError
    else
      match Literal.readUnsigned? digits with
      | some x => .ok (.float x, rest)
      | none => .error .syntaxError

/-- The raw characters up to the closing quote, escapes kept. -/
def untilQuote (quote : Char) : List Char → Option (List Char × List Char)
  | [] => none
  | '\\' :: c :: cs => (untilQuote quote cs).map fun p => ('\\' :: c :: p.1, p.2)
  | c :: cs =>
    if c = quote then some ([], cs)
    else if c = '\\' then none
    else (untilQuote quote cs).map fun p => (c :: p.1, p.2)

/-- The number four hexadecimal digits write. -/
def hexFour (a b c d : Char) : Option Nat := Literal.readNat? 16 [a, b, c, d]

/-- Resolves escapes; `high` is an upper surrogate that waits for its partner. -/
def unescape (high : Option Nat) : List Char → Except Fault (List Char)
  | [] => if high.isSome then .error .badEscape else .ok []
  | '\\' :: 'u' :: a :: b :: c :: d :: cs =>
    match hexFour a b c d, high with
    | none, _ => .error .badEscape
    | some u, none =>
      if 0xD800 ≤ u ∧ u ≤ 0xDBFF then unescape (some u) cs
      else if 0xDC00 ≤ u ∧ u ≤ 0xDFFF then .error .badEscape
      else (unescape none cs).map (Char.ofNat u :: ·)
    | some u, some h =>
      if 0xDC00 ≤ u ∧ u ≤ 0xDFFF then
        (unescape none cs).map (Char.ofNat (0x10000 + (h - 0xD800) * 0x400 + (u - 0xDC00)) :: ·)
      else .error .badEscape
  | '\\' :: c :: cs =>
    let image : Option Char :=
      match c with
      | '"' => some '"'
      | '\\' => some '\\'
      | '/' => some '/'
      | '\'' => some '\''
      | 'b' => some '\x08'
      | 'f' => some '\x0c'
      | 'n' => some '\n'
      | 'r' => some '\r'
      | 't' => some '\t'
      | _ => none
    match image, high with
    | some d, none => (unescape none cs).map (d :: ·)
    | _, _ => .error .badEscape
  | c :: cs => if high.isSome then .error .badEscape else (unescape none cs).map (c :: ·)

/-- A quoted text, the opening quote having been read. -/
def quotedText (quote : Char) (cs : List Char) : Except Fault (Token × List Char) :=
  match untilQuote quote cs with
  | none => .error .syntaxError
  | some (raw, rest) =>
    match unescape none raw with
    | .ok body => .ok (.str (String.ofList body), rest)
    | .error e => .error e

/-! ## Inside a tag -/

/-- The operator or bracket at the front, two characters before one. -/
def sign? : List Char → Option (Token × List Char)
  | '/' :: '/' :: r => some (.doubleSlash, r)
  | '*' :: '*' :: r => some (.doubleStar, r)
  | '=' :: '=' :: r => some (.equal, r)
  | '!' :: '=' :: r => some (.notEqual, r)
  | '>' :: '=' :: r => some (.greaterEqual, r)
  | '<' :: '=' :: r => some (.lessEqual, r)
  | '+' :: r => some (.plus, r)
  | '-' :: r => some (.minus, r)
  | '*' :: r => some (.star, r)
  | '/' :: r => some (.slash, r)
  | '%' :: r => some (.percent, r)
  | '!' :: r => some (.bang, r)
  | '.' :: r => some (.dot, r)
  | ',' :: r => some (.comma, r)
  | ':' :: r => some (.colon, r)
  | '~' :: r => some (.tilde, r)
  | '|' :: r => some (.pipe, r)
  | '=' :: r => some (.assign, r)
  | '>' :: r => some (.greater, r)
  | '<' :: r => some (.less, r)
  | '(' :: r => some (.openParen, r)
  | ')' :: r => some (.closeParen, r)
  | '[' :: r => some (.openBracket, r)
  | ']' :: r => some (.closeBracket, r)
  | '\x7b' :: r => some (.openBrace, r)
  | '\x7d' :: r => some (.closeBrace, r)
  | _ => none

/-- One token inside a tag; the text starts with no blank. -/
def inner (cs : List Char) : Except Fault (Token × List Char) :=
  match sign? cs with
  | some p => .ok p
  | none =>
    match cs with
    | [] => .error .syntaxError
    | c :: r =>
      if c = '\'' ∨ c = '"' then quotedText c r
      else if c.isDigit then number cs
      else if c.isAlpha ∨ c = '_' then
        .ok (.name (String.ofList (cs.takeWhile isNameChar)), cs.dropWhile isNameChar)
      else .error .syntaxError

/-- What ends a tag of a kind. -/
def closer : TagKind → List Char
  | .print => ['\x7d', '\x7d']
  | .tag => ['%', '\x7d']

/-- The end of a tag at the front: the rest, and whether the blanks behind it are dropped. -/
def close? (kind : TagKind) (cs : List Char) : Option (Bool × List Char) :=
  match cs with
  | '-' :: r => if (closer kind).isPrefixOf r then some (true, r.drop 2) else none
  | '+' :: r => if (closer kind).isPrefixOf r then some (false, r.drop 2) else none
  | r => if (closer kind).isPrefixOf r then some (false, r.drop 2) else none

/-- Drops the blanks between tokens. -/
def skipBlanks (cs : List Char) : List Char :=
  cs.dropWhile fun c => c = ' ' || c = '\t' || c = '\n' || c = '\r' || c = '\x0c'

/-! ## Between tags -/

/-- Whether a pair of characters opens a tag or a comment. -/
def opens (a b : Char) : Bool := a = '\x7b' && (b = '\x7b' || b = '%' || b = '#')

/-- The text before the next tag or comment, and the rest from there. -/
def untilTag : List Char → List Char × List Char
  | [] => ([], [])
  | [c] => ([c], [])
  | a :: b :: cs =>
    if opens a b then ([], a :: b :: cs)
    else
      let (before, rest) := untilTag (b :: cs)
      (a :: before, rest)

/-- Splits at the first occurrence of a text: what is before it, and what is behind it. -/
def untilText (stop : List Char) : List Char → Option (List Char × List Char)
  | [] => none
  | c :: cs =>
    if stop.isPrefixOf (c :: cs) then some ([], (c :: cs).drop stop.length)
    else (untilText stop cs).map fun p => (c :: p.1, p.2)

/-- A tag made of one word and nothing else, its opening having been read: whether the blanks behind
it are dropped, and the rest. -/
def wordTag? (word : String) (cs : List Char) : Option (Bool × List Char) :=
  let cs := skipBlanks cs
  if word.toList.isPrefixOf cs then close? .tag (skipBlanks (cs.drop word.length)) else none

/-- The text of a raw tag up to its end: the text, whether blanks before the end are dropped,
whether blanks behind it are, and the rest. -/
def rawText : List Char → Option (List Char × Bool × Bool × List Char)
  | [] => none
  | c :: cs =>
    let found : Option (Bool × Bool × List Char) :=
      match c, cs with
      | '\x7b', '%' :: r =>
        let (trim, body) :=
          match r with
          | '-' :: b => (true, b)
          | '+' :: b => (false, b)
          | b => (false, b)
        (wordTag? "endraw" body).map fun p => (trim, p.1, p.2)
      | _, _ => none
    match found with
    | some (trim, trimNext, rest) => some ([], trim, trimNext, rest)
    | none => (rawText cs).map fun p => (c :: p.1, p.2)

/-- The dash or plus after an opening: whether the text before is trimmed, and the rest. -/
def control : List Char → Bool × List Char
  | '-' :: r => (true, r)
  | '+' :: r => (false, r)
  | r => (false, r)

/-- Literal text as a token, nothing for no text. -/
def ofText (cs : List Char) : List Token :=
  if cs.isEmpty then [] else [.text (String.ofList cs)]

/-- Scans on.  `mode` is the tag that is open, if any; `trim` drops the blanks that follow.  Each
round takes at least one character. -/
def scanFrom : Nat → Option TagKind → Bool → List Char → Except Fault (List Token)
  | 0, _, _, _ => .error .syntaxError
  | _ + 1, none, _, [] => .ok []
  | fuel + 1, none, trim, cs =>
    let cs := if trim then Text.trimStartBy Text.isBlank cs else cs
    let (before, rest) := untilTag cs
    match rest with
    | [] => .ok (ofText before)
    | [_] => .ok (ofText before)
    | _ :: kind :: r =>
      let (trimBefore, r) := control r
      let before := ofText (if trimBefore then Text.trimEndBy Text.isBlank before else before)
      if kind = '#' then
        match untilText ['#', '\x7d'] r with
        | none => .error .syntaxError
        | some (comment, rest) =>
          (scanFrom fuel none (comment.getLast? = some '-') rest).map (before ++ ·)
      else if kind = '%' then
        match wordTag? "raw" r with
        | some (trimRaw, body) =>
          match rawText body with
          | none => .error .syntaxError
          | some (raw, trimEnd, trimNext, rest) =>
            let raw := if trimRaw then Text.trimStartBy Text.isBlank raw else raw
            let raw := if trimEnd then Text.trimEndBy Text.isBlank raw else raw
            (scanFrom fuel none trimNext rest).map (before ++ ofText raw ++ ·)
        | none => (scanFrom fuel (some .tag) false r).map (before ++ .openTag :: ·)
      else (scanFrom fuel (some .print) false r).map (before ++ .openPrint :: ·)
  | fuel + 1, some kind, _, cs =>
    let cs := skipBlanks cs
    match close? kind cs with
    | some (trim, rest) =>
      (scanFrom fuel none trim rest).map
        ((match kind with | .print => closePrint | .tag => closeTag) :: ·)
    | none =>
      match cs with
      | [] => .ok []
      | _ :: _ =>
        match inner cs with
        | .error e => .error e
        | .ok (t, rest) => (scanFrom fuel (some kind) false rest).map (t :: ·)

/-- The **tokens** of a template.  A template that ends inside a tag has no closing token. -/
def scan (template : String) : Except Fault (List Token) :=
  let cs := template.toList
  scanFrom (cs.length + 2) none false cs

end Token

end Scaffold.Template
