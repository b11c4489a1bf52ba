import Scaffold.Yaml.Value
import Scaffold.Json.Writer

/-!
# Yaml/Writer — the text of a value

Lists and mappings are written in blocks, two columns further in for each level; a list that is the
value of a key stands in the column of the key.  A text is plain where it reads back as itself, and in
single quotes where it does not; a text of several lines is a block that keeps them; whatever cannot
stand in either is in double quotes.
-/

namespace Scaffold.Yaml

/-- The **spelling** of a text. -/
inductive Style where
  | plain
  | single
  | double
  | literal
deriving DecidableEq

namespace Style

/-- A character that can be written as it is. -/
def isPrintable (c : Char) : Bool :=
  c = '\n' || (' ' ≤ c && c ≤ '~') || ('\u00a0' ≤ c && c ≤ '\ud7ff') ||
    ('\ue000' ≤ c && c ≤ '\ufffd' && c ≠ '\ufeff') || 0x10000 ≤ c.toNat

/-- Whether two neighbours in a text pass a test. -/
def anyPair (p : Char → Char → Bool) : List Char → Bool
  | a :: b :: cs => p a b || anyPair p (b :: cs)
  | _ => false

/-- The marks that no plain text starts with. -/
def isLeadingMark (c : Char) : Bool := "#,[]\x7b\x7d&*!|>'\"%@\x60".toList.contains c

/-- Whether a text starts as a mark of the format would. -/
def startsMarked (cs : List Char) : Bool :=
  cs.take 3 == ['-', '-', '-'] || cs.take 3 == ['.', '.', '.'] ||
    match cs with
    | [] => false
    | c :: rest => isLeadingMark c || ((c = '?' || c = ':' || c = '-') && gapNext rest)

/-- Whether a colon that ends a word or a hash that starts one comes behind the first character. -/
def holdsMark : List Char → Bool
  | a :: b :: cs => (b = ':' && gapNext cs) || (b = '#' && isGap a) || holdsMark (b :: cs)
  | _ => false

/-- Whether a space or a line break comes first. -/
def leads (cs : List Char) : Bool := cs.head?.any fun c => c = ' ' || isBreak c

/-- Whether a space or a line break comes last. -/
def trails (cs : List Char) : Bool := cs.getLast?.any fun c => c = ' ' || isBreak c

/-- Whether a text has something that only double quotes can hold. -/
def needsEscapes (cs : List Char) : Bool :=
  !cs.all isPrintable || anyPair (fun a b => a = ' ' && isBreak b) cs

/-- Whether a line of a text starts with a space. -/
def hasIndentedLine (cs : List Char) : Bool := anyPair (fun a b => isBreak a && b = ' ') cs

/-- Whether a text can be plain. -/
def plainFits (cs : List Char) : Bool :=
  !(leads cs || trails cs || cs.any isBreak || needsEscapes cs || startsMarked cs || holdsMark cs)

/-- Whether a text can stand in single quotes. -/
def singleFits (cs : List Char) : Bool := !(needsEscapes cs || hasIndentedLine cs)

/-- Whether a text can be a block. -/
def literalFits (cs : List Char) : Bool := !(needsEscapes cs || cs.getLast? == some ' ')

/-- Whether a plain text would be read as something else. -/
def misreads (s : String) : Bool :=
  match Value.ofPlain? s with
  | some (.str _) => Value.isPaddedDigits s.toList
  | _ => true

/-- The **spelling** of a text. -/
def ofText (s : String) : Style :=
  let cs := s.toList
  if cs.contains '\n' then if literalFits cs then .literal else .double
  else if plainFits cs && !misreads s then .plain
  else if singleFits cs then .single
  else .double

end Style

namespace Writer

/-- Spaces. -/
def pad (n : Nat) : List Char := List.replicate n ' '

/-- Hexadecimal digits in upper case. -/
def upperHex (width n : Nat) : List Char := (Json.hex width n).toList.map Char.toUpper

/-- The letter of a one-letter escape. -/
def escapeLetter? (c : Char) : Option Char :=
  match c with
  | '\x00' => some '0'
  | '\x07' => some 'a'
  | '\x08' => some 'b'
  | '\t' => some 't'
  | '\n' => some 'n'
  | '\x0b' => some 'v'
  | '\x0c' => some 'f'
  | '\r' => some 'r'
  | '\x1b' => some 'e'
  | '"' => some '"'
  | '\\' => some '\\'
  | '\u0085' => some 'N'
  | '\u00a0' => some '_'
  | '\u2028' => some 'L'
  | '\u2029' => some 'P'
  | _ => none

/-- A character in double quotes. -/
def doubled (c : Char) : List Char :=
  if Style.isPrintable c && !isBreak c && c ≠ '"' && c ≠ '\\' then [c]
  else
    match escapeLetter? c with
    | some l => ['\\', l]
    | none =>
      let n := c.toNat
      if n < 0x100 then '\\' :: 'x' :: upperHex 2 n
      else if n < 0x10000 then '\\' :: 'u' :: upperHex 4 n
      else '\\' :: 'U' :: upperHex 8 n

/-- The characters of a text in single quotes; every line but the first is indented. -/
def singled (indent : Nat) : Bool → List Char → List Char
  | fresh, [] => if fresh then pad indent else []
  | fresh, c :: cs =>
    if isBreak c then c :: singled indent true cs
    else
      (if fresh then pad indent else []) ++ (if c = '\'' then ['\'', '\''] else [c]) ++
        singled indent false cs

/-- The lines of a block. -/
def blockLines (indent : Nat) : Bool → List Char → List Char
  | _, [] => []
  | fresh, c :: cs =>
    if isBreak c then c :: blockLines indent true cs
    else (if fresh then pad indent else []) ++ c :: blockLines indent false cs

/-- How the end of a block is to be read. -/
def chompMark (cs : List Char) : List Char :=
  match cs.reverse with
  | [] => ['-']
  | [c] => if isBreak c then ['+'] else ['-']
  | c :: d :: _ => if !isBreak c then ['-'] else if isBreak d then ['+'] else []

/-- A text as a block, behind its mark. -/
def blockText (indent : Nat) (cs : List Char) : List Char :=
  let hint := if Style.leads cs then ['2'] else []
  let lines := '|' :: hint ++ chompMark cs ++ '\n' :: blockLines indent true cs
  if cs.getLast?.any isBreak then lines else lines ++ ['\n']

/-- A text of one line in its spelling. -/
def quoted (indent : Nat) (style : Style) (cs : List Char) : List Char :=
  match style with
  | .single => '\'' :: singled indent false cs ++ ['\'']
  | .double => '"' :: cs.flatMap doubled ++ ['"']
  | _ => cs

/-- A text up to the end of its last line. -/
def textLines (indent : Nat) (s : String) : List Char :=
  match Style.ofText s with
  | .literal => blockText indent s.toList
  | style => quoted indent style s.toList ++ ['\n']

/-- Doubles carry no sign in their exponent. -/
def floatFormat : FloatFormat := { Json.floatFormat with plus := false, nan := ".nan", infinity := ".inf" }

/-- The text of a number. -/
def numberText : Number → String
  | .int n => toString n
  | .float x => floatFormat.text x

/-- The word of a value that is no text and has no items. -/
def word : Value → String
  | .null => "null"
  | .bool true => "true"
  | .bool false => "false"
  | .num n => numberText n
  | .seq [] => "[]"
  | .map [] => "\x7b\x7d"
  | _ => ""

/-- The bytes of a character that a tag cannot hold, escaped. -/
def tagChar (c : Char) : List Char :=
  if isWordChar c || ";/?:@&=+$,.~*'()[]!".toList.contains c then [c]
  else (String.singleton c).toUTF8.toList.flatMap fun b => '%' :: upperHex 2 b.toNat

/-- A tag with its mark. -/
def tagText (tag : String) : List Char := '!' :: tag.toList.flatMap tagChar

/-- The longest key before its colon on one line, in bytes. -/
def maxKey : Nat := 128

/-- The text of a **key** that fits before its colon. -/
def simpleKey? (indent : Nat) : Value → Option (List Char)
  | .str s =>
    if s.toList.any isBreak || maxKey < s.utf8ByteSize then none
    else some (quoted indent (Style.ofText s) s.toList)
  | .seq (_ :: _) => none
  | .map (_ :: _) => none
  | .tagged _ _ => none
  | v => some (word v).toList

mutual

/-- A value behind the colon of its key, which stands at `indent`. -/
def behindKey (indent : Nat) : Value → List Char
  | .str s => ' ' :: textLines (indent + 2) s
  | .seq (v :: vs) => '\n' :: items indent (pad indent) (v :: vs)
  | .map (p :: ps) => '\n' :: pairs (indent + 2) (pad (indent + 2)) (p :: ps)
  | .tagged t v => ' ' :: tagText t ++ behindKey indent v
  | v => ' ' :: (word v).toList ++ ['\n']

/-- A value behind a mark at `indent`. -/
def behindMark (indent : Nat) : Value → List Char
  | .str s => ' ' :: textLines (indent + 2) s
  | .seq (v :: vs) => ' ' :: items (indent + 2) [] (v :: vs)
  | .map (p :: ps) => ' ' :: pairs (indent + 2) [] (p :: ps)
  | .tagged t v => ' ' :: tagText t ++ behindTag (indent + 2) v
  | v => ' ' :: (word v).toList ++ ['\n']

/-- A value behind a tag; its own lines stand at `indent`. -/
def behindTag (indent : Nat) : Value → List Char
  | .str s => ' ' :: textLines (max indent 2) s
  | .seq (v :: vs) => '\n' :: items indent (pad indent) (v :: vs)
  | .map (p :: ps) => '\n' :: pairs indent (pad indent) (p :: ps)
  | .tagged t v => ' ' :: tagText t ++ behindTag indent v
  | v => ' ' :: (word v).toList ++ ['\n']

/-- The items of a list at `indent`; `lead` comes before the first. -/
def items (indent : Nat) (lead : List Char) : List Value → List Char
  | [] => []
  | v :: vs => lead ++ '-' :: behindMark indent v ++ items indent (pad indent) vs

/-- The pairs of a mapping at `indent`; `lead` comes before the first. -/
def pairs (indent : Nat) (lead : List Char) : List (Value × Value) → List Char
  | [] => []
  | (k, v) :: ps =>
    let pair :=
      match simpleKey? (indent + 2) k with
      | some key => key ++ ':' :: behindKey indent v
      | none => '?' :: behindMark indent k ++ pad indent ++ ':' :: behindMark indent v
    lead ++ pair ++ pairs indent (pad indent) ps

end

end Writer

/-- The **text** of a value. -/
def Value.text (v : Value) : String :=
  String.ofList <|
    match v with
    | .str s => Writer.textLines 2 s
    | .seq (v :: vs) => Writer.items 0 [] (v :: vs)
    | .map (p :: ps) => Writer.pairs 0 [] (p :: ps)
    | .tagged t v => Writer.tagText t ++ Writer.behindTag 0 v
    | v => (Writer.word v).toList ++ ['\n']

end Scaffold.Yaml
