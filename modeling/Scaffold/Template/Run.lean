import Scaffold.Template.Filter

/-!
# Template/Run — the state of a running template

A `Run` holds the scopes in force, innermost first, the text written so far, the blocks that
inheritance has collected, and how values are escaped.  Assignments go to the innermost scope, so
what a loop, a block or a `with` tag sets is gone after it.
-/

namespace Scaffold.Template

/-- The variables of one scope. -/
abbrev Frame := List (String × Value)

/-- A template with its name. -/
structure Page where
  name : String
  body : List Stmt
deriving Inhabited

/-- The bodies a block has: its own first, then those it overrides. -/
abbrev Layers := List (String × List (List Stmt))

/-- The **state** of a running template. -/
structure Run where
  frames : List Frame
  out : String
  /-- What is written is dropped. -/
  muted : Bool
  /-- The template to go on with at the end of this one. -/
  parent : Option Page
  blocks : Layers
  /-- The block being run and which of its bodies. -/
  current : Option (String × Nat)
  /-- The names of this template and its ancestors. -/
  loaded : List String
  escape : Value.Escape
  /-- What nesting has cost outside of `frames`. -/
  depth : Nat
deriving Inhabited

namespace Frame

/-- The variable under a name. -/
def get? : Frame → String → Option Value
  | [], _ => none
  | (n, v) :: vs, name => if n = name then some v else get? vs name

/-- Sets a variable. -/
def set : Frame → String → Value → Frame
  | [], name, value => [(name, value)]
  | (n, v) :: vs, name, value => if n = name then (name, value) :: vs else (n, v) :: set vs name value

end Frame

/-- The blocks of a template with one body each. -/
def Layers.ofBlocks (blocks : Blocks) : Layers := blocks.map fun b => (b.1, [b.2])

/-- Adds a body below those a block has. -/
def Layers.add : Layers → String → List Stmt → Layers
  | [], name, body => [(name, [body])]
  | (n, bodies) :: ls, name, body =>
    if n = name then (n, bodies ++ [body]) :: ls else (n, bodies) :: add ls name body

/-- The bodies of a block. -/
def Layers.get (ls : Layers) (name : String) : List (List Stmt) :=
  ((ls.find? fun l => l.1 == name).map (·.2)).getD []

/-- Names of a template's own dialect that do not count for escaping. -/
def templateSuffixes : List String := ["j2", "jinja2", "jinja"]

/-- How a template **escapes**, by its name: one suffix of templates is set aside, then pages of
markup and data formats are told by the last part behind a dot. -/
def escapeOf (name : String) : Value.Escape :=
  let parts := Text.split '.' name
  let parts := if parts.length > 1 && templateSuffixes.contains (parts.getLast?.getD "") then
    parts.dropLast else parts
  match parts with
  | [] | [_] => .plain
  | parts =>
    let kind := parts.getLast?.getD ""
    if ["html", "htm", "xml"].contains kind then .markup
    else if ["json", "json5", "js", "yaml", "yml"].contains kind then .data
    else .plain

namespace Run

/-- How deep a run may nest. -/
def maxDepth : Nat := 500

/-- Functions every template has. -/
def builtins : List String := ["range", "dict"]

/-- The variable under a name, innermost scope first. -/
def lookupIn (name : String) : List Frame → Value
  | [] => if builtins.contains name then .builtin name else .undefined
  | f :: fs =>
    match Frame.get? f name with
    | some v => v
    | none => lookupIn name fs

/-- The **variable** under a name. -/
def lookup (r : Run) (name : String) : Value := lookupIn name r.frames

/-- Sets a variable of the innermost scope. -/
def set (r : Run) (name : String) (value : Value) : Run :=
  match r.frames with
  | [] => { r with frames := [Frame.set [] name value] }
  | f :: fs => { r with frames := Frame.set f name value :: fs }

mutual

/-- Binds a target to a value. -/
def assign (r : Run) (value : Value) : Target → Except Fault Run
  | .name s => .ok (r.set s value)
  | .tuple parts =>
    match value with
    | .list items _ => assignAll r items parts
    | .map pairs => assignAll r (pairs.map (·.1)) parts
    | _ => .error .cannotUnpack

/-- Binds targets to as many values. -/
def assignAll (r : Run) : List Value → List Target → Except Fault Run
  | [], [] => .ok r
  | v :: vs, t :: ts =>
    match assign r v t with
    | .error e => .error e
    | .ok r => assignAll r vs ts
  | _, _ => .error .cannotUnpack

end

/-- Opens a scope. -/
def push (r : Run) : Except Fault Run :=
  if r.frames.length + r.depth + 1 > maxDepth then .error .invalidOperation
  else .ok { r with frames := [] :: r.frames }

/-- Closes the innermost scope. -/
def pop (r : Run) : Run := { r with frames := r.frames.tail }

/-- Writes text. -/
def write (r : Run) (s : String) : Run := if r.muted then r else { r with out := r.out ++ s }

/-- Starts to collect what is written. -/
def collecting (r : Run) : Run := { r with out := "", muted := false }

/-- Ends collecting: the run goes on writing where `before` wrote. -/
def writingTo (r before : Run) : Run := { r with out := before.out, muted := before.muted }

/-- Collected text as a value; it is safe if it was escaped. -/
def collected (r : Run) : Value := .str r.out (r.escape != .plain)

end Run

end Scaffold.Template
