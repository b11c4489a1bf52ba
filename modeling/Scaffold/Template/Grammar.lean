import Scaffold.Template.Token

/-!
# Template/Grammar — from tokens to statements

Expressions bind, from loosest to tightest: the conditional, `or`, `and`, `not`, comparisons, sums,
`~`, products, powers, signs, then attributes, subscripts, calls, filters and tests.  Operators of one
level group to the left.  A tag that opens a body reads statements up to its closing word.
`Template.parse` is the whole: it refuses two blocks of one name.
-/

namespace Scaffold.Template

namespace Grammar

/-- What a reader answers: what it read, and the tokens left. -/
abbrev Parsed (α : Type) := Except Fault (α × List Token)

/-- Demands one token. -/
def expect (t : Token) : List Token → Except Fault (List Token)
  | [] => .error .syntaxError
  | u :: ts => if u = t then .ok ts else .error .syntaxError

/-- Demands a name. -/
def anyName : List Token → Parsed String
  | .name s :: ts => .ok (s, ts)
  | _ => .error .syntaxError

/-- Demands a given word. -/
def keyword (w : String) (ts : List Token) : Except Fault (List Token) := expect (.name w) ts

/-- Names that nothing can be assigned to. -/
def reserved : List String := ["true", "True", "false", "False", "none", "None", "loop", "self"]

/-- Demands a name that can be assigned to. -/
def targetName (ts : List Token) : Parsed String :=
  match ts with
  | .name s :: rest => if reserved.contains s then .error .syntaxError else .ok (s, rest)
  | _ => .error .syntaxError

/-- The binary operators of each level, loosest first. -/
def operatorAt (level : Nat) : Token → Option Operator
  | .name "or" => if level = 0 then some .or else none
  | .name "and" => if level = 1 then some .and else none
  | .plus => if level = 4 then some .add else none
  | .minus => if level = 4 then some .sub else none
  | .tilde => if level = 5 then some .concat else none
  | .star => if level = 6 then some .mul else none
  | .slash => if level = 6 then some .div else none
  | .doubleSlash => if level = 6 then some .floorDiv else none
  | .percent => if level = 6 then some .rem else none
  | .doubleStar => if level = 7 then some .pow else none
  | _ => none

/-- The comparison a token stands for. -/
def comparison? : Token → Option Operator
  | .equal => some .eq
  | .notEqual => some .ne
  | .less => some .lt
  | .lessEqual => some .le
  | .greater => some .gt
  | .greaterEqual => some .ge
  | .name "in" => some .isIn
  | _ => none

/-- Whether a token starts the argument of a test that has no parentheses. -/
def startsTestArgument : Token → Bool
  | .name s => !(["and", "or", "else", "is"].contains s)
  | .str _ | .int _ | .float _ | .plus | .minus | .openBracket | .openBrace => true
  | _ => false

/-- The levels of binary operators: `or`, `and`, `not`, comparison, sum, `~`, product, power. -/
def powerLevel : Nat := 7

mutual

/-- An expression: a conditional, or what is tighter. -/
def expr : Nat → List Token → Parsed Expr
  | 0, _ => .error .syntaxError
  | fuel + 1, ts =>
    match level fuel 0 ts with
    | .error e => .error e
    | .ok (e, rest) => conditions fuel e rest

/-- The conditions behind an expression. -/
def conditions : Nat → Expr → List Token → Parsed Expr
  | 0, _, _ => .error .syntaxError
  | fuel + 1, yes, .name "if" :: ts =>
    match level fuel 0 ts with
    | .error e => .error e
    | .ok (test, .name "else" :: rest) =>
      match expr fuel rest with
      | .error e => .error e
      | .ok (no, rest) => conditions fuel (.cond test yes no) rest
    | .ok (test, rest) => conditions fuel (.cond test yes (.lit .missing)) rest
  | _ + 1, yes, ts => .ok (yes, ts)

/-- An expression of a level of binary operators. -/
def level : Nat → Nat → List Token → Parsed Expr
  | 0, _, _ => .error .syntaxError
  | fuel + 1, n, ts =>
    if n = 2 then
      match ts with
      | .name "not" :: rest =>
        match level fuel 2 rest with
        | .error e => .error e
        | .ok (e, rest) => .ok (.not e, rest)
      | ts => level fuel 3 ts
    else if n = 3 then
      match level fuel 4 ts with
      | .error e => .error e
      | .ok (e, rest) => comparisons fuel e rest
    else if n ≤ powerLevel then
      match level fuel (n + 1) ts with
      | .error e => .error e
      | .ok (e, rest) => operations fuel n e rest
    else unary fuel ts

/-- The operators of one level behind an expression. -/
def operations : Nat → Nat → Expr → List Token → Parsed Expr
  | 0, _, _, _ => .error .syntaxError
  | _ + 1, _, left, [] => .ok (left, [])
  | fuel + 1, n, left, t :: ts =>
    match operatorAt n t with
    | none => .ok (left, t :: ts)
    | some op =>
      match level fuel (n + 1) ts with
      | .error e => .error e
      | .ok (right, rest) => operations fuel n (.binary op left right) rest

/-- The comparisons behind an expression; `not in` is one word of two. -/
def comparisons : Nat → Expr → List Token → Parsed Expr
  | 0, _, _ => .error .syntaxError
  | _ + 1, left, [] => .ok (left, [])
  | fuel + 1, left, t :: ts =>
    if t = .name "not" then
      match keyword "in" ts with
      | .error e => .error e
      | .ok rest =>
        match level fuel 4 rest with
        | .error e => .error e
        | .ok (right, rest) => comparisons fuel (.not (.binary .isIn left right)) rest
    else
      match comparison? t with
      | none => .ok (left, t :: ts)
      | some op =>
        match level fuel 4 ts with
        | .error e => .error e
        | .ok (right, rest) => comparisons fuel (.binary op left right) rest

/-- A signed operand with what is attached to it. -/
def unary : Nat → List Token → Parsed Expr
  | 0, _ => .error .syntaxError
  | fuel + 1, ts =>
    match signed fuel ts with
    | .error e => .error e
    | .ok (e, rest) =>
      match attached fuel e rest with
      | .error e => .error e
      | .ok (e, rest) => filters fuel e rest

/-- An operand behind signs. -/
def signed : Nat → List Token → Parsed Expr
  | 0, _ => .error .syntaxError
  | fuel + 1, .minus :: ts =>
    match signed fuel ts with
    | .error e => .error e
    | .ok (e, rest) => .ok (.neg e, rest)
  | fuel + 1, ts => primary fuel ts

/-- Attributes, subscripts and calls behind an operand. -/
def attached : Nat → Expr → List Token → Parsed Expr
  | 0, _, _ => .error .syntaxError
  | fuel + 1, e, .dot :: .name s :: ts => attached fuel (.attr e s) ts
  | fuel + 1, e, .dot :: .int n :: ts => attached fuel (.item e (.lit (.int n))) ts
  | _ + 1, _, .dot :: _ => .error .syntaxError
  | fuel + 1, e, .openBracket :: ts =>
    match subscript fuel e ts with
    | .error e => .error e
    | .ok (e, rest) => attached fuel e rest
  | fuel + 1, e, .openParen :: ts =>
    match arguments fuel [] ts with
    | .error e => .error e
    | .ok (args, rest) => attached fuel (.call e args) rest
  | _ + 1, e, ts => .ok (e, ts)

/-- A subscript or a slice, its bracket having been read. -/
def subscript : Nat → Expr → List Token → Parsed Expr
  | 0, _, _ => .error .syntaxError
  | fuel + 1, e, .colon :: ts => sliceEnd fuel e (.lit .none) ts
  | fuel + 1, e, ts =>
    match expr fuel ts with
    | .error e => .error e
    | .ok (key, .closeBracket :: rest) => .ok (.item e key, rest)
    | .ok (start, .colon :: rest) => sliceEnd fuel e start rest
    | .ok _ => .error .syntaxError

/-- The end and the step of a slice, its first colon having been read. -/
def sliceEnd : Nat → Expr → Expr → List Token → Parsed Expr
  | 0, _, _, _ => .error .syntaxError
  | _ + 1, e, start, .closeBracket :: ts =>
    .ok (.slice e start (.lit .none) (.lit .none), ts)
  | fuel + 1, e, start, .colon :: ts => sliceStep fuel e start (.lit .none) ts
  | fuel + 1, e, start, ts =>
    match expr fuel ts with
    | .error e => .error e
    | .ok (stop, .closeBracket :: rest) => .ok (.slice e start stop (.lit .none), rest)
    | .ok (stop, .colon :: rest) => sliceStep fuel e start stop rest
    | .ok _ => .error .syntaxError

/-- The step of a slice, its second colon having been read. -/
def sliceStep : Nat → Expr → Expr → Expr → List Token → Parsed Expr
  | 0, _, _, _, _ => .error .syntaxError
  | _ + 1, e, start, stop, .closeBracket :: ts => .ok (.slice e start stop (.lit .none), ts)
  | fuel + 1, e, start, stop, ts =>
    match expr fuel ts with
    | .error e => .error e
    | .ok (step, .closeBracket :: rest) => .ok (.slice e start stop step, rest)
    | .ok _ => .error .syntaxError

/-- Arguments up to the closing parenthesis, the opening one having been read.  Named arguments come
last. -/
def arguments : Nat → Args → List Token → Parsed Args
  | 0, _, _ => .error .syntaxError
  | _ + 1, acc, .closeParen :: ts => .ok (acc, ts)
  | fuel + 1, acc, ts =>
    match (if acc.isEmpty then .ok ts else expect .comma ts) with
    | .error e => .error e
    | .ok (.closeParen :: rest) => .ok (acc, rest)
    | .ok (.name s :: .assign :: rest) =>
      match level fuel 0 rest with
      | .error e => .error e
      | .ok (e, rest) => arguments fuel (acc ++ [(some s, e)]) rest
    | .ok rest =>
      match expr fuel rest with
      | .error e => .error e
      | .ok (e, rest) =>
        if acc.any (fun a => a.1.isSome) then .error .syntaxError
        else arguments fuel (acc ++ [(none, e)]) rest

/-- Filters and tests behind an operand. -/
def filters : Nat → Expr → List Token → Parsed Expr
  | 0, _, _ => .error .syntaxError
  | fuel + 1, e, .pipe :: .name s :: .openParen :: ts =>
    match arguments fuel [] ts with
    | .error e => .error e
    | .ok (args, rest) => filters fuel (.filter s e args) rest
  | fuel + 1, e, .pipe :: .name s :: ts => filters fuel (.filter s e []) ts
  | _ + 1, _, .pipe :: _ => .error .syntaxError
  | fuel + 1, e, .name "is" :: .name "not" :: ts =>
    match testOf fuel e ts with
    | .error e => .error e
    | .ok (e, rest) => filters fuel (.not e) rest
  | fuel + 1, e, .name "is" :: ts =>
    match testOf fuel e ts with
    | .error e => .error e
    | .ok (e, rest) => filters fuel e rest
  | _ + 1, e, ts => .ok (e, ts)

/-- A test with its arguments; one argument may stand without parentheses. -/
def testOf : Nat → Expr → List Token → Parsed Expr
  | 0, _, _ => .error .syntaxError
  | fuel + 1, e, .name s :: .openParen :: ts =>
    match arguments fuel [] ts with
    | .error e => .error e
    | .ok (args, rest) => .ok (.test s e args, rest)
  | fuel + 1, e, .name s :: t :: ts =>
    if startsTestArgument t then
      match signed fuel (t :: ts) with
      | .error e => .error e
      | .ok (a, rest) =>
        match attached fuel a rest with
        | .error e => .error e
        | .ok (a, rest) => .ok (.test s e [(none, a)], rest)
    else .ok (.test s e [], t :: ts)
  | _ + 1, e, [.name s] => .ok (.test s e [], [])
  | _ + 1, _, _ => .error .syntaxError

/-- A literal, a name, or something in brackets. -/
def primary : Nat → List Token → Parsed Expr
  | 0, _ => .error .syntaxError
  | _ + 1, .name s :: ts =>
    if s = "true" ∨ s = "True" then .ok (.lit (.bool true), ts)
    else if s = "false" ∨ s = "False" then .ok (.lit (.bool false), ts)
    else if s = "none" ∨ s = "None" then .ok (.lit .none, ts)
    else .ok (.var s, ts)
  | _ + 1, .str s :: ts => .ok (.lit (.text s), ts)
  | _ + 1, .int n :: ts => .ok (.lit (.int n), ts)
  | _ + 1, .float x :: ts => .ok (.lit (.float x), ts)
  | _ + 1, .openParen :: .closeParen :: ts => .ok (.list [], ts)
  | fuel + 1, .openParen :: ts =>
    match expr fuel ts with
    | .error e => .error e
    | .ok (e, .closeParen :: rest) => .ok (e, rest)
    | .ok (e, .comma :: rest) =>
      match items fuel .closeParen [e] rest with
      | .error e => .error e
      | .ok (es, rest) => .ok (.list es, rest)
    | .ok _ => .error .syntaxError
  | fuel + 1, .openBracket :: ts =>
    match items fuel .closeBracket [] ts with
    | .error e => .error e
    | .ok (es, rest) => .ok (.list es, rest)
  | fuel + 1, .openBrace :: ts =>
    match pairs fuel [] ts with
    | .error e => .error e
    | .ok (ps, rest) => .ok (.map ps, rest)
  | _ + 1, _ => .error .syntaxError

/-- Items up to a closing bracket; a comma may stand before it. -/
def items : Nat → Token → List Expr → List Token → Parsed (List Expr)
  | 0, _, _, _ => .error .syntaxError
  | _ + 1, _, _, [] => .error .syntaxError
  | fuel + 1, close, acc, t :: ts =>
    if t = close then .ok (acc, ts)
    else
      match expr fuel (t :: ts) with
      | .error e => .error e
      | .ok (e, .comma :: rest) => items fuel close (acc ++ [e]) rest
      | .ok (e, u :: rest) => if u = close then .ok (acc ++ [e], rest) else .error .syntaxError
      | .ok (_, []) => .error .syntaxError

/-- Keys and values up to the closing brace; a comma may stand before it. -/
def pairs : Nat → List (Expr × Expr) → List Token → Parsed (List (Expr × Expr))
  | 0, _, _ => .error .syntaxError
  | _ + 1, acc, .closeBrace :: ts => .ok (acc, ts)
  | fuel + 1, acc, ts =>
    match expr fuel ts with
    | .error e => .error e
    | .ok (k, .colon :: rest) =>
      match expr fuel rest with
      | .error e => .error e
      | .ok (v, .comma :: rest) => pairs fuel (acc ++ [(k, v)]) rest
      | .ok (v, .closeBrace :: rest) => .ok (acc ++ [(k, v)], rest)
      | .ok _ => .error .syntaxError
    | .ok _ => .error .syntaxError

end

/-- More than the longest chain of readers per token. -/
def fuelFor (ts : List Token) : Nat := 16 * ts.length + 32

/-- An expression with all the fuel its tokens can use. -/
def anExpr (ts : List Token) : Parsed Expr := expr (fuelFor ts) ts

/-- An expression without a condition. -/
def plainExpr (ts : List Token) : Parsed Expr := level (fuelFor ts) 0 ts

/-- Arguments in parentheses, if there are any. -/
def optionalArguments : List Token → Parsed Args
  | .openParen :: ts => arguments (fuelFor ts) [] ts
  | ts => .ok ([], ts)

/-- Filters with bars between them, up to the end of the tag. -/
def filterChain : Nat → List (String × Args) → List Token → Parsed (List (String × Args))
  | 0, _, _ => .error .syntaxError
  | fuel + 1, acc, ts =>
    match ts with
    | .closeTag :: _ => if acc.isEmpty then .error .syntaxError else .ok (acc, ts)
    | _ =>
      match (if acc.isEmpty then .ok ts else expect .pipe ts) with
      | .error e => .error e
      | .ok rest =>
        match anyName rest with
        | .error e => .error e
        | .ok (s, rest) =>
          match optionalArguments rest with
          | .error e => .error e
          | .ok (args, rest) => filterChain fuel (acc ++ [(s, args)]) rest

/-- Whether a token ends a list of targets. -/
def endsTargets : Token → Bool
  | .closeParen | .closePrint | .closeTag | .name "in" => true
  | _ => false

/-- One target, or several with commas between them. -/
def targets : Nat → List Target → Bool → List Token → Parsed Target
  | 0, _, _, _ => .error .syntaxError
  | fuel + 1, acc, several, ts =>
    match (if acc.isEmpty then .ok ts else expect .comma ts) with
    | .error e => .error e
    | .ok rest =>
      if rest.head?.any endsTargets then .ok (.tuple acc, rest)
      else
        let one : Parsed Target :=
          match rest with
          | .openParen :: inside =>
            match targets fuel [] false inside with
            | .error e => .error e
            | .ok (t, rest) =>
              match expect .closeParen rest with
              | .error e => .error e
              | .ok rest => .ok (t, rest)
          | rest =>
            match targetName rest with
            | .error e => .error e
            | .ok (s, rest) => .ok (.name s, rest)
        match one with
        | .error e => .error e
        | .ok (t, rest) =>
          if rest.head? = some .comma then targets fuel (acc ++ [t]) true rest
          else if several then .ok (.tuple (acc ++ [t]), rest)
          else .ok (t, rest)

/-- The targets of a loop or an assignment. -/
def someTargets (ts : List Token) : Parsed Target := targets (ts.length + 1) [] false ts

/-- Bindings with commas between them, up to the end of the tag. -/
def bindings : Nat → List (Target × Expr) → List Token → Parsed (List (Target × Expr))
  | 0, _, _ => .error .syntaxError
  | _ + 1, acc, .closeTag :: ts => .ok (acc, .closeTag :: ts)
  | fuel + 1, acc, ts =>
    match (if acc.isEmpty then .ok ts else expect .comma ts) with
    | .error e => .error e
    | .ok rest =>
      let one : Parsed Target :=
        match rest with
        | .openParen :: inside =>
          match someTargets inside with
          | .error e => .error e
          | .ok (t, rest) =>
            match expect .closeParen rest with
            | .error e => .error e
            | .ok rest => .ok (t, rest)
        | rest =>
          match targetName rest with
          | .error e => .error e
          | .ok (s, rest) => .ok (.name s, rest)
      match one with
      | .error e => .error e
      | .ok (t, rest) =>
        match expect .assign rest with
        | .error e => .error e
        | .ok rest =>
          match anExpr rest with
          | .error e => .error e
          | .ok (e, rest) => bindings fuel (acc ++ [(t, e)]) rest

/-- The words `with context` and `without context` mean nothing and may be left out. -/
def contextWords : List Token → Except Fault (List Token)
  | .name "with" :: ts | .name "without" :: ts => keyword "context" ts
  | ts => .ok ts

/-- Imported names with their new names, up to the end of the tag. -/
def importedNames : Nat → List (String × String) → List Token → Parsed (List (String × String))
  | 0, _, _ => .error .syntaxError
  | fuel + 1, acc, ts =>
    if ts.head?.any (fun t => t = .closeTag) then .ok (acc, ts)
    else
      match (if acc.isEmpty then .ok ts else expect .comma ts) with
      | .error e => .error e
      | .ok rest =>
        if rest.head?.any (fun t => t = .closeTag) then .ok (acc, rest)
        else
          match targetName rest with
          | .error e => .error e
          | .ok (s, .name "as" :: rest) =>
            match targetName rest with
            | .error e => .error e
            | .ok (new, rest) => importedNames fuel (acc ++ [(s, new)]) rest
          | .ok (s, .name "with" :: rest) | .ok (s, .name "without" :: rest) =>
            match keyword "context" rest with
            | .error e => .error e
            | .ok rest => .ok (acc ++ [(s, s)], rest)
          | .ok (s, rest) => importedNames fuel (acc ++ [(s, s)]) rest

/-- Parameters up to the closing parenthesis; those with defaults come last. -/
def parameters : Nat → List String → List Expr → List Token → Parsed (List String × List Expr)
  | 0, _, _, _ => .error .syntaxError
  | _ + 1, names, defaults, .closeParen :: ts => .ok ((names, defaults), ts)
  | fuel + 1, names, defaults, ts =>
    match (if names.isEmpty then .ok ts else expect .comma ts) with
    | .error e => .error e
    | .ok (.closeParen :: rest) => .ok ((names, defaults), rest)
    | .ok rest =>
      match targetName rest with
      | .error e => .error e
      | .ok (s, .assign :: rest) =>
        match anExpr rest with
        | .error e => .error e
        | .ok (e, rest) => parameters fuel (names ++ [s]) (defaults ++ [e]) rest
      | .ok (s, rest) =>
        if defaults.isEmpty then parameters fuel (names ++ [s]) defaults rest
        else .error .syntaxError

/-- Where statements stand: inside a loop, inside a macro. -/
structure Place where
  inLoop : Bool
  inDefinition : Bool

/-- A tag that is complete in itself: its word has been read. -/
def simpleTag (place : Place) (word : String) (ts : List Token) : Option (Parsed Stmt) :=
  if word = "extends" then
    some (match anExpr ts with
      | .error e => .error e
      | .ok (e, rest) => .ok (.extend e, rest))
  else if word = "include" then
    some (match anExpr ts with
      | .error e => .error e
      | .ok (e, rest) =>
        match contextWords rest with
        | .error e => .error e
        | .ok (.name "ignore" :: rest) =>
          match keyword "missing" rest with
          | .error e => .error e
          | .ok rest =>
            match contextWords rest with
            | .error e => .error e
            | .ok rest => .ok (.embed e true, rest)
        | .ok rest => .ok (.embed e false, rest))
  else if word = "import" then
    some (match anExpr ts with
      | .error e => .error e
      | .ok (e, rest) =>
        match keyword "as" rest with
        | .error e => .error e
        | .ok rest =>
          match targetName rest with
          | .error e => .error e
          | .ok (s, rest) =>
            match contextWords rest with
            | .error e => .error e
            | .ok rest => .ok (.importAll e (.name s), rest))
  else if word = "from" then
    some (match anExpr ts with
      | .error e => .error e
      | .ok (e, rest) =>
        match keyword "import" rest with
        | .error e => .error e
        | .ok rest =>
          match importedNames (rest.length + 1) [] rest with
          | .error e => .error e
          | .ok (names, rest) => .ok (.importNames e names, rest))
  else if word = "break" then
    some (if place.inLoop then .ok (.leave, ts) else .error .syntaxError)
  else if word = "continue" then
    some (if place.inLoop then .ok (.proceed, ts) else .error .syntaxError)
  else none

mutual

/-- Statements up to a tag whose word is one of `stops`, or up to the end.  The rest starts at that
word. -/
def stmts : Nat → Place → List String → List Token → Parsed (List Stmt)
  | 0, _, _, _ => .error .syntaxError
  | _ + 1, _, _, [] => .ok ([], [])
  | fuel + 1, place, stops, .text s :: ts =>
    match stmts fuel place stops ts with
    | .error e => .error e
    | .ok (ss, rest) => .ok (.text s :: ss, rest)
  | fuel + 1, place, stops, .openPrint :: ts =>
    match anExpr ts with
    | .error e => .error e
    | .ok (e, .closePrint :: rest) =>
      match stmts fuel place stops rest with
      | .error e => .error e
      | .ok (ss, rest) => .ok (.print e :: ss, rest)
    | .ok _ => .error .syntaxError
  | fuel + 1, place, stops, .openTag :: .name w :: ts =>
    if stops.contains w then .ok ([], .name w :: ts)
    else
      match tag fuel place w ts with
      | .error e => .error e
      | .ok (s, .closeTag :: rest) =>
        match stmts fuel place stops rest with
        | .error e => .error e
        | .ok (ss, rest) => .ok (s :: ss, rest)
      | .ok _ => .error .syntaxError
  | _ + 1, _, _, _ => .error .syntaxError

/-- The body of a tag: the end of the tag, statements, and the closing word, which is dropped. -/
def body : Nat → Place → String → List Token → Parsed (List Stmt)
  | 0, _, _, _ => .error .syntaxError
  | fuel + 1, place, stop, ts =>
    match expect .closeTag ts with
    | .error e => .error e
    | .ok rest =>
      match stmts fuel place [stop] rest with
      | .error e => .error e
      | .ok (ss, rest) => .ok (ss, rest.tail)

/-- What follows the condition of a branch, up to the closing word. -/
def branches : Nat → Place → Expr → List Token → Parsed Stmt
  | 0, _, _, _ => .error .syntaxError
  | fuel + 1, place, test, ts =>
    match expect .closeTag ts with
    | .error e => .error e
    | .ok rest =>
      match stmts fuel place ["endif", "else", "elif"] rest with
      | .error e => .error e
      | .ok (yes, .name "else" :: rest) =>
        match body fuel place "endif" rest with
        | .error e => .error e
        | .ok (no, rest) => .ok (.branch test yes no, rest)
      | .ok (yes, .name "elif" :: rest) =>
        match anExpr rest with
        | .error e => .error e
        | .ok (test', rest) =>
          match branches fuel place test' rest with
          | .error e => .error e
          | .ok (inner, rest) => .ok (.branch test yes [inner], rest)
      | .ok (yes, rest) => .ok (.branch test yes [], rest.tail)

/-- A tag, its word having been read, up to the end of its last tag. -/
def tag : Nat → Place → String → List Token → Parsed Stmt
  | 0, _, _, _ => .error .syntaxError
  | fuel + 1, place, word, ts =>
    match simpleTag place word ts with
    | some parsed => parsed
    | none =>
      if word = "if" then
        match anExpr ts with
        | .error e => .error e
        | .ok (test, rest) => branches fuel place test rest
      else if word = "for" then forTag fuel place ts
      else if word = "with" then
        match bindings (ts.length + 1) [] ts with
        | .error e => .error e
        | .ok (bs, rest) =>
          match body fuel place "endwith" rest with
          | .error e => .error e
          | .ok (ss, rest) => .ok (.scoped bs ss, rest)
      else if word = "filter" then
        match filterChain (ts.length + 1) [] ts with
        | .error e => .error e
        | .ok (chain, rest) =>
          match body fuel place "endfilter" rest with
          | .error e => .error e
          | .ok (ss, rest) => .ok (.filtered chain ss, rest)
      else if word = "set" then setTag fuel place ts
      else if word = "block" then
        if place.inDefinition then .error .syntaxError
        else
          match anyName ts with
          | .error e => .error e
          | .ok (s, rest) =>
            match body fuel { place with inLoop := false } "endblock" rest with
            | .error e => .error e
            | .ok (ss, .name t :: rest) =>
              if t = s then .ok (.block s ss, rest) else .error .syntaxError
            | .ok (ss, rest) => .ok (.block s ss, rest)
      else if word = "macro" then
        match anyName ts with
        | .error e => .error e
        | .ok (s, rest) =>
          match expect .openParen rest with
          | .error e => .error e
          | .ok rest =>
            match parameters (rest.length + 1) [] [] rest with
            | .error e => .error e
            | .ok ((names, defaults), rest) =>
              match body fuel ⟨false, true⟩ "endmacro" rest with
              | .error e => .error e
              | .ok (ss, .name _ :: rest) => .ok (.define s names defaults ss, rest)
              | .ok (ss, rest) => .ok (.define s names defaults ss, rest)
      else .error .syntaxError

/-- A loop. -/
def forTag : Nat → Place → List Token → Parsed Stmt
  | 0, _, _ => .error .syntaxError
  | fuel + 1, place, ts =>
    match someTargets ts with
    | .error e => .error e
    | .ok (target, rest) =>
      match keyword "in" rest with
      | .error e => .error e
      | .ok rest =>
        match plainExpr rest with
        | .error e => .error e
        | .ok (items, rest) =>
          let guarded : Parsed Expr :=
            match rest with
            | .name "if" :: rest => anExpr rest
            | rest => .ok (.lit (.bool true), rest)
          match guarded with
          | .error e => .error e
          | .ok (guard, rest) =>
            match expect .closeTag rest with
            | .error e => .error e
            | .ok rest =>
              match stmts fuel { place with inLoop := true } ["endfor", "else"] rest with
              | .error e => .error e
              | .ok (ss, .name "else" :: rest) =>
                match body fuel { place with inLoop := true } "endfor" rest with
                | .error e => .error e
                | .ok (os, rest) => .ok (.loop target items guard ss os, rest)
              | .ok (ss, rest) => .ok (.loop target items guard ss [], rest.tail)

/-- An assignment of a value, or of the text of a body. -/
def setTag : Nat → Place → List Token → Parsed Stmt
  | 0, _, _ => .error .syntaxError
  | fuel + 1, place, ts =>
    match someTargets ts with
    | .error e => .error e
    | .ok (target, .assign :: rest) =>
      match anExpr rest with
      | .error e => .error e
      | .ok (e, rest) => .ok (.set target e, rest)
    | .ok (target, .closeTag :: rest) =>
      match body fuel place "endset" (.closeTag :: rest) with
      | .error e => .error e
      | .ok (ss, rest) => .ok (.setText target [] ss, rest)
    | .ok (target, .pipe :: rest) =>
      match filterChain (rest.length + 1) [] rest with
      | .error e => .error e
      | .ok (chain, rest) =>
        match body fuel place "endset" rest with
        | .error e => .error e
        | .ok (ss, rest) => .ok (.setText target chain ss, rest)
    | .ok _ => .error .syntaxError

end

end Grammar

/-- Whether no name occurs twice. -/
def distinctNames : List String → Bool
  | [] => true
  | n :: ns => !ns.contains n && distinctNames ns

/-- **Parses** a template. -/
def parse (template : String) : Except Fault (List Stmt) :=
  match Token.scan template with
  | .error e => .error e
  | .ok ts =>
    match Grammar.stmts (2 * ts.length + 4) ⟨false, false⟩ [] ts with
    | .error e => .error e
    | .ok (ss, []) =>
      if distinctNames ((blocksOf ss).map (·.1)) then .ok ss else .error .syntaxError
    | .ok (_, _ :: _) => .error .syntaxError

end Scaffold.Template
