import Scaffold.Text.Split

/-!
# Shell/Syntax — scripts of the command language

A script is a list of commands, each a list of words with the files its input and output are bound to.
A word is made of parts: plain text, values of variables, and the output of scripts.  Parts between
quotes are never cut at blanks.  `Command.ofText?` reads a script; a script with a quote or a bracket
that is never closed has no commands.
-/

namespace Scaffold.Shell

/-- What stands for a variable that has no value, or for one that has. -/
structure Otherwise where
  /-- An empty value counts as none. -/
  emptyToo : Bool
  /-- The word stands for a value that is there. -/
  ifPresent : Bool
  word : List Char

/-- A **part** of a word. -/
inductive Part where
  | text (quoted : Bool) (cs : List Char)
  | value (quoted : Bool) (name : String) (otherwise : Option Otherwise)
  | output (quoted : Bool) (script : List Char)

/-- A **word** as it is written. -/
abbrev Word := List Part

/-- How a file is **bound** to a stream. -/
inductive Binding where
  | read
  | write
  | append
  | duplicate
deriving DecidableEq

/-- A **redirection** of a stream. -/
structure Redirect where
  stream : Nat
  binding : Binding
  target : Word

/-- A **command**. -/
inductive Command where
  | simple (settings : List (String × Word)) (words : List Word) (redirects : List Redirect)
  | inside (ownState : Bool) (body : Command) (redirects : List Redirect)
  | pipe (left right : Command)
  | both (left right : Command)
  | either (left right : Command)
  | then_ (left right : Command)
  | negate (body : Command)
  | cond (test yes no : Command)
  | loop (while_ : Bool) (test body : Command)
  | each (name : String) (words : List Word) (body : Command)
  | skip
deriving Inhabited

/-! ## Words -/

/-- The characters up to a quote, and what follows it. -/
def toQuote (quote : Char) : List Char → Option (List Char × List Char) := Text.splitOnce? quote

/-- A character of the names of variables. -/
def isNameChar (c : Char) : Bool := c.isAlphanum || c = '_'

/-- A character that starts the name of a variable. -/
def isNameStart (c : Char) : Bool := c.isAlpha || c = '_'

/-- A variable with a name of one mark. -/
def isSpecial (c : Char) : Bool := c.isDigit || "@*#?$!-".toList.contains c

/-- The characters up to the bracket that closes an open one, and what follows. -/
def toBracket (opening close : Char) : Nat → Nat → List Char → Option (List Char × List Char)
  | 0, _, _ => none
  | fuel + 1, depth, cs =>
    match cs with
    | [] => none
    | '\\' :: c :: cs =>
      (toBracket opening close fuel depth cs).map fun p => ('\\' :: c :: p.1, p.2)
    | '\'' :: cs =>
      (toQuote '\'' cs).bind fun q =>
        (toBracket opening close fuel depth q.2).map fun p => ('\'' :: q.1 ++ '\'' :: p.1, p.2)
    | c :: cs =>
      if c = close && depth = 0 then some ([], cs)
      else
        let depth := if c = close then depth - 1 else if c = opening then depth + 1 else depth
        (toBracket opening close fuel depth cs).map fun p => (c :: p.1, p.2)

/-- Reads what stands for a variable without value. -/
def otherwise? : List Char → Option Otherwise
  | ':' :: '-' :: w => some ⟨true, false, w⟩
  | ':' :: '=' :: w => some ⟨true, false, w⟩
  | ':' :: '+' :: w => some ⟨true, true, w⟩
  | '-' :: w => some ⟨false, false, w⟩
  | '=' :: w => some ⟨false, false, w⟩
  | '+' :: w => some ⟨false, true, w⟩
  | _ => none

/-- Reads the inside of a variable between curly brackets. -/
def bracedValue? (quoted : Bool) (cs : List Char) : Option Part :=
  match cs with
  | c :: rest =>
    let name := if isSpecial c && !c.isDigit then [c] else cs.takeWhile isNameChar
    let behind := if isSpecial c && !c.isDigit then rest else cs.dropWhile isNameChar
    if name.isEmpty then none
    else if behind.isEmpty then some (.value quoted (String.ofList name) none)
    else (otherwise? behind).map fun o => .value quoted (String.ofList name) (some o)
  | [] => none

/-- Reads what follows a dollar sign. -/
def dollar (quoted : Bool) (cs : List Char) : Option (Part × List Char) :=
  match cs with
  | '(' :: cs =>
    (toBracket '(' ')' (cs.length + 1) 0 cs).map fun p => (.output quoted p.1, p.2)
  | '\x7b' :: cs =>
    (toBracket '\x7b' '\x7d' (cs.length + 1) 0 cs).bind fun p =>
      (bracedValue? quoted p.1).map fun v => (v, p.2)
  | c :: rest =>
    if isSpecial c then some (.value quoted (String.singleton c) none, rest)
    else if isNameStart c then
      some (.value quoted (String.ofList (cs.takeWhile isNameChar)) none, cs.dropWhile isNameChar)
    else some (.text quoted ['$'], cs)
  | [] => some (.text quoted ['$'], [])

/-- Reads the inside of double quotes. -/
def doubleQuoted : Nat → List Char → Option (Word × List Char)
  | 0, _ => none
  | fuel + 1, cs =>
    match cs with
    | [] => none
    | '"' :: cs => some ([], cs)
    | '\\' :: '\n' :: cs => doubleQuoted fuel cs
    | '\\' :: c :: cs =>
      let kept := if c = '$' || c = '\x60' || c = '"' || c = '\\' then [c] else ['\\', c]
      (doubleQuoted fuel cs).map fun p => (.text true kept :: p.1, p.2)
    | '$' :: cs =>
      (dollar true cs).bind fun v => (doubleQuoted fuel v.2).map fun p => (v.1 :: p.1, p.2)
    | '\x60' :: cs =>
      (toQuote '\x60' cs).bind fun q =>
        (doubleQuoted fuel q.2).map fun p => (.output true q.1 :: p.1, p.2)
    | c :: cs => (doubleQuoted fuel cs).map fun p => (.text true [c] :: p.1, p.2)

/-- A character that ends a word. -/
def endsWord (c : Char) : Bool := " \t\n;&|<>()".toList.contains c

/-- Reads a word. -/
def word : Nat → List Char → Option (Word × List Char)
  | 0, _ => none
  | fuel + 1, cs =>
    match cs with
    | [] => some ([], [])
    | '\\' :: '\n' :: cs => word fuel cs
    | '\\' :: c :: cs => (word fuel cs).map fun p => (.text true [c] :: p.1, p.2)
    | '\'' :: cs =>
      (toQuote '\'' cs).bind fun q =>
        (word fuel q.2).map fun p => (.text true q.1 :: p.1, p.2)
    | '"' :: cs =>
      (doubleQuoted (cs.length + 1) cs).bind fun q =>
        (word fuel q.2).map fun p => (.text true [] :: q.1 ++ p.1, p.2)
    | '$' :: cs => (dollar false cs).bind fun v => (word fuel v.2).map fun p => (v.1 :: p.1, p.2)
    | '\x60' :: cs =>
      (toQuote '\x60' cs).bind fun q =>
        (word fuel q.2).map fun p => (.output false q.1 :: p.1, p.2)
    | c :: cs =>
      if endsWord c then some ([], c :: cs)
      else (word fuel cs).map fun p => (.text false [c] :: p.1, p.2)

/-- The text of a word that is nothing but text outside quotes. -/
def Word.bare? : Word → Option (List Char)
  | [] => some []
  | .text false cs :: ps => (Word.bare? ps).map (cs ++ ·)
  | _ => none

/-! ## Lexemes -/

/-- A **lexeme**: a word, a mark between commands, or a redirection without its target. -/
inductive Lexeme where
  | word (w : Word)
  | mark (s : String)
  | redirect (stream : Nat) (binding : Binding)

/-- Reads the mark of a redirection. -/
def binding? : List Char → Option (Nat × Binding × List Char)
  | '>' :: '>' :: cs => some (1, .append, cs)
  | '>' :: '&' :: cs => some (1, .duplicate, cs)
  | '>' :: '|' :: cs => some (1, .write, cs)
  | '>' :: cs => some (1, .write, cs)
  | '<' :: '&' :: cs => some (0, .duplicate, cs)
  | '<' :: cs => some (0, .read, cs)
  | _ => none

/-- Reads a redirection, with a digit for the stream if there is one. -/
def redirect? (cs : List Char) : Option (Lexeme × List Char) :=
  match binding? cs with
  | some (stream, b, rest) => some (.redirect stream b, rest)
  | none =>
    match cs with
    | c :: cs =>
      if c.isDigit then
        (binding? cs).map fun (_, b, rest) => (.redirect (c.toNat - '0'.toNat) b, rest)
      else none
    | [] => none

/-- Reads a mark between commands. -/
def mark? : List Char → Option (String × List Char)
  | '&' :: '&' :: cs => some ("&&", cs)
  | '|' :: '|' :: cs => some ("||", cs)
  | ';' :: ';' :: cs => some (";;", cs)
  | '\n' :: cs => some (";", cs)
  | ';' :: cs => some (";", cs)
  | '&' :: cs => some (";", cs)
  | '|' :: cs => some ("|", cs)
  | '(' :: cs => some ("(", cs)
  | ')' :: cs => some (")", cs)
  | _ => none

/-- The lexemes of a script. -/
def lexemes : Nat → List Char → Option (List Lexeme)
  | 0, _ => none
  | fuel + 1, cs =>
    match cs with
    | [] => some []
    | ' ' :: cs => lexemes fuel cs
    | '\t' :: cs => lexemes fuel cs
    | '\\' :: '\n' :: cs => lexemes fuel cs
    | '#' :: cs => lexemes fuel (cs.dropWhile (· ≠ '\n'))
    | cs =>
      match redirect? cs, mark? cs with
      | some (l, rest), _ => (lexemes fuel rest).map (l :: ·)
      | none, some (s, rest) => (lexemes fuel rest).map (.mark s :: ·)
      | none, none =>
        (word (cs.length + 1) cs).bind fun (w, rest) => (lexemes fuel rest).map (.word w :: ·)

/-! ## Commands -/

/-- Whether a reserved word comes next. -/
def sees (name : String) : List Lexeme → Bool
  | .word w :: _ => w.bare? == some name.toList
  | _ => false

/-- Moves over a reserved word. -/
def expect (name : String) (ls : List Lexeme) : Option (List Lexeme) :=
  if sees name ls then some ls.tail else none

/-- Moves over ends of lines. -/
def skipEnds : List Lexeme → List Lexeme
  | .mark ";" :: ls => skipEnds ls
  | ls => ls

/-- The words that end a list of commands. -/
def closers : List String := ["then", "else", "elif", "fi", "do", "done", "\x7d"]

/-- Whether a list of commands ends here. -/
def atEnd (ls : List Lexeme) : Bool :=
  match ls with
  | [] => true
  | .mark ")" :: _ => true
  | ls => closers.any fun c => sees c ls

/-- The name and the value of a word that sets a variable. -/
def setting? (w : Word) : Option (String × Word) :=
  let letters (p : Part) : List Part :=
    match p with
    | .text false cs => cs.map fun c => .text false [c]
    | p => [p]
  let isEquals (p : Part) : Bool :=
    match p with
    | .text false ['='] => true
    | _ => false
  let parts := w.flatMap letters
  let name := parts.takeWhile fun p => !isEquals p
  match parts.dropWhile (fun p => !isEquals p), Word.bare? name with
  | _ :: value, some (c :: cs) =>
    if isNameStart c && cs.all isNameChar then some (String.ofList (c :: cs), value) else none
  | _, _ => none

/-- Reads the redirections behind a command. -/
def redirects : List Lexeme → List Redirect × List Lexeme
  | .redirect s b :: .word w :: ls =>
    let (rs, ls) := redirects ls
    (⟨s, b, w⟩ :: rs, ls)
  | ls => ([], ls)

/-- Reads the words of a simple command. -/
def simple : List Lexeme → List (String × Word) × List Word × List Redirect × List Lexeme
  | .word w :: ls =>
    let (settings, words, rs, rest) := simple ls
    match setting? w with
    | some s => (s :: settings, words, rs, rest)
    | none => ([], w :: settings.map (fun s => .text false (s.1.toList ++ ['=']) :: s.2) ++ words, rs, rest)
  | .redirect s b :: .word w :: ls =>
    let (settings, words, rs, rest) := simple ls
    (settings, words, ⟨s, b, w⟩ :: rs, rest)
  | ls => ([], [], [], ls)

mutual

/-- Reads a list of commands. -/
def list : Nat → List Lexeme → Option (Command × List Lexeme)
  | 0, _ => none
  | fuel + 1, ls =>
    let ls := skipEnds ls
    if atEnd ls then some (.skip, ls)
    else
      (chain fuel ls).bind fun (c, ls) =>
        match ls with
        | .mark ";" :: ls => (list fuel ls).map fun (d, ls) => (.then_ c d, ls)
        | ls => if atEnd ls then some (c, ls) else none

/-- Reads pipelines joined by what they need of each other. -/
def chain : Nat → List Lexeme → Option (Command × List Lexeme)
  | 0, _ => none
  | fuel + 1, ls => (pipeline fuel ls).bind fun (c, ls) => chainRest fuel c ls

/-- Reads the rest of a chain behind a command. -/
def chainRest : Nat → Command → List Lexeme → Option (Command × List Lexeme)
  | 0, _, _ => none
  | fuel + 1, c, ls =>
    match ls with
    | .mark "&&" :: ls =>
      (pipeline fuel (skipEnds ls)).bind fun (d, ls) => chainRest fuel (.both c d) ls
    | .mark "||" :: ls =>
      (pipeline fuel (skipEnds ls)).bind fun (d, ls) => chainRest fuel (.either c d) ls
    | ls => some (c, ls)

/-- Reads a pipeline. -/
def pipeline : Nat → List Lexeme → Option (Command × List Lexeme)
  | 0, _ => none
  | fuel + 1, ls =>
    if sees "!" ls then (pipeline fuel ls.tail).map fun (c, ls) => (.negate c, ls)
    else
      (command fuel ls).bind fun (c, ls) =>
        match ls with
        | .mark "|" :: ls => (pipeline fuel (skipEnds ls)).map fun (d, ls) => (.pipe c d, ls)
        | ls => some (c, ls)

/-- Reads a command. -/
def command : Nat → List Lexeme → Option (Command × List Lexeme)
  | 0, _ => none
  | fuel + 1, ls =>
    if sees "if" ls then branches fuel ls.tail
    else if sees "while" ls then repeated true fuel ls.tail
    else if sees "until" ls then repeated false fuel ls.tail
    else if sees "for" ls then counted fuel ls.tail
    else if sees "\x7b" ls then
      (list fuel ls.tail).bind fun (c, ls) =>
        (expect "\x7d" ls).map fun ls =>
          let (rs, ls) := redirects ls
          (.inside false c rs, ls)
    else
      match ls with
      | .mark "(" :: ls =>
        (list fuel ls).bind fun (c, ls) =>
          match ls with
          | .mark ")" :: ls =>
            let (rs, ls) := redirects ls
            some (.inside true c rs, ls)
          | _ => none
      | ls =>
        match simple ls with
        | ([], [], [], _) => none
        | (settings, words, rs, rest) => some (.simple settings words rs, rest)

/-- Reads the branches of a condition. -/
def branches : Nat → List Lexeme → Option (Command × List Lexeme)
  | 0, _ => none
  | fuel + 1, ls =>
    (list fuel ls).bind fun (test, ls) =>
      (expect "then" ls).bind fun ls =>
        (list fuel ls).bind fun (yes, ls) =>
          if sees "elif" ls then
            (branches fuel ls.tail).map fun (no, ls) => (.cond test yes no, ls)
          else if sees "else" ls then
            (list fuel ls.tail).bind fun (no, ls) =>
              (expect "fi" ls).map fun ls =>
                let (rs, ls) := redirects ls
                (.inside false (.cond test yes no) rs, ls)
          else
            (expect "fi" ls).map fun ls =>
              let (rs, ls) := redirects ls
              (.inside false (.cond test yes .skip) rs, ls)

/-- Reads a loop with a test. -/
def repeated (while_ : Bool) : Nat → List Lexeme → Option (Command × List Lexeme)
  | 0, _ => none
  | fuel + 1, ls =>
    (list fuel ls).bind fun (test, ls) =>
      (expect "do" ls).bind fun ls =>
        (list fuel ls).bind fun (body, ls) =>
          (expect "done" ls).map fun ls =>
            let (rs, ls) := redirects ls
            (.inside false (.loop while_ test body) rs, ls)

/-- Reads a loop over words. -/
def counted : Nat → List Lexeme → Option (Command × List Lexeme)
  | 0, _ => none
  | fuel + 1, ls =>
    match ls with
    | .word w :: ls =>
      let (words, ls) :=
        if sees "in" ls then
          let (_, words, _, ls) := simple ls.tail
          (words, ls)
        else ([[.value true "@" none]], ls)
      (expect "do" (skipEnds ls)).bind fun ls =>
        (list fuel ls).bind fun (body, ls) =>
          (expect "done" ls).bind fun ls =>
            w.bare?.map fun name =>
              let (rs, ls) := redirects ls
              (.inside false (.each (String.ofList name) words body) rs, ls)
    | _ => none

end

/-- Reads a **script**. -/
def Command.ofText? (cs : List Char) : Option Command :=
  match lexemes (cs.length + 1) cs with
  | none => none
  | some ls =>
    match list (8 * (ls.length + 1)) ls with
    | some (c, []) => some c
    | _ => none

end Scaffold.Shell
