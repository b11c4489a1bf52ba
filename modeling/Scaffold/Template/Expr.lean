/-!
# Template/Expr — the language of templates

A template is a list of statements (`Stmt`): literal text, printed expressions (`Expr`) and tags.
Absent parts of an expression are literals, so that every node has the same shape: a conditional
without an alternative ends in `Literal.missing`, a slice without a bound in `Literal.none`.
-/

namespace Scaffold.Template

/-- A **literal** of an expression. -/
inductive Literal where
  /-- What stands for a value that is not there. -/
  | missing
  | none
  | bool (b : Bool)
  | int (n : Int)
  | float (x : Float)
  | text (s : String)
deriving DecidableEq, Inhabited

/-- A **binary operator**. -/
inductive Operator where
  | add | sub | mul | div | floorDiv | rem | pow
  | concat
  | eq | ne | lt | le | gt | ge
  | isIn
  | and | or
deriving DecidableEq, Inhabited, Repr

/-- An **expression**. -/
inductive Expr where
  | lit (l : Literal)
  | var (name : String)
  | neg (e : Expr)
  | not (e : Expr)
  | binary (op : Operator) (left right : Expr)
  | cond (test yes no : Expr)
  | attr (e : Expr) (name : String)
  | item (e key : Expr)
  | slice (e start stop step : Expr)
  | call (callee : Expr) (args : List (Option String × Expr))
  | filter (name : String) (e : Expr) (args : List (Option String × Expr))
  | test (name : String) (e : Expr) (args : List (Option String × Expr))
  | list (items : List Expr)
  | map (pairs : List (Expr × Expr))
deriving Inhabited

/-- Arguments of a call: positional ones have no name. -/
abbrev Args := List (Option String × Expr)

/-- What an assignment **binds**: a name, or the items of a sequence. -/
inductive Target where
  | name (s : String)
  | tuple (parts : List Target)
deriving Inhabited

/-- A **statement**. -/
inductive Stmt where
  /-- Text written as it stands. -/
  | text (s : String)
  /-- The printed value of an expression. -/
  | print (e : Expr)
  | loop (target : Target) (items guard : Expr) (body otherwise : List Stmt)
  | branch (test : Expr) (yes no : List Stmt)
  | scoped (bindings : List (Target × Expr)) (body : List Stmt)
  | set (target : Target) (e : Expr)
  | setText (target : Target) (chain : List (String × Args)) (body : List Stmt)
  | filtered (chain : List (String × Args)) (body : List Stmt)
  | block (name : String) (body : List Stmt)
  | extend (parent : Expr)
  | embed (names : Expr) (ignoreMissing : Bool)
  | importAll (name : Expr) (target : Target)
  | importNames (name : Expr) (names : List (String × String))
  | define (name : String) (params : List String) (defaults : List Expr) (body : List Stmt)
  | leave
  | proceed
deriving Inhabited

/-- The blocks of a list of statements, nested ones included, by name. -/
abbrev Blocks := List (String × List Stmt)

mutual

/-- The blocks a statement holds. -/
def Stmt.blocks : Stmt → Blocks
  | .loop _ _ _ body otherwise => blocksOf body ++ blocksOf otherwise
  | .branch _ yes no => blocksOf yes ++ blocksOf no
  | .scoped _ body => blocksOf body
  | .setText _ _ body => blocksOf body
  | .filtered _ body => blocksOf body
  | .block name body => (name, body) :: blocksOf body
  | _ => []

/-- The blocks a list of statements holds. -/
def blocksOf : List Stmt → Blocks
  | [] => []
  | s :: ss => s.blocks ++ blocksOf ss

end

end Scaffold.Template
