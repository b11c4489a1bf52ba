import Scaffold.Template.Run
import Scaffold.Template.Grammar

/-!
# Template/Exec — running a template

Expressions have values and change nothing; statements change the run.  Both recurse on their
syntax.  Where one body runs another one (a macro, a block, an included or inherited template) the
other one is run by the `Host` of the next lower level, and the host of the lowest level refuses: so
nesting is bounded and every run ends.

Sources are looked up in `Host.pages`.  A template that is not there stops the run with
`Fault.needs`, which no statement turns into another fault.
-/

namespace Scaffold.Template

/-- Looked-up sources: the statements of a template, or why there are none. -/
abbrev Pages := List (String × Except Fault (List Stmt))

/-- A parameter, its argument, and what stands in for a missing one. -/
abbrev Binding := String × Value × Option Expr

/-- What a body needs from outside: sources, and running another body with parameters bound. -/
structure Host where
  pages : Pages
  enter : List Binding → List Stmt → Run → Except Fault Run

/-- How a statement **ends**: the next one follows, or a loop is left or goes on. -/
inductive Flow where
  | next
  | leave
  | proceed
deriving DecidableEq

/-- Reports a fault as another one, except for a missing source. -/
def Fault.as (outer : Fault) : Fault → Fault
  | .needs name => .needs name
  | _ => outer

namespace Host

/-- A template by its name. -/
def page (h : Host) (name : String) : Except Fault Page :=
  match h.pages.find? fun p => p.1 == name with
  | none => .error (.needs name)
  | some (_, .ok body) => .ok ⟨name, body⟩
  | some (_, .error e) => .error e

end Host

/-! ## Calls -/

/-- The arguments of a macro matched with its parameters, last parameter first. -/
def Definition.bindings (d : Definition) (g : Given) : Except Fault (List Binding) :=
  let count := d.params.length
  let required := count - d.defaults.length
  if g.values.length > count then .error .tooManyArguments
  else if g.named.any fun p => !d.params.contains p.1 || (d.params.take g.values.length).contains p.1 then
    .error .tooManyArguments
  else
    .ok (d.params.zipIdx.map fun (name, i) =>
      (name, (g.values[i]? <|> g.get? name).getD .undefined,
        if i < required then none else d.defaults[i - required]?)).reverse

/-- What calling a macro costs. -/
def callCost : Nat := 5

/-- The **text** a macro writes. -/
def callRoutine (h : Host) (r : Run) (d : Definition) (depth : Nat)
    (captured : Option (List Frame)) (g : Given) : Except Fault Value :=
  match d.bindings g with
  | .error e => .error e
  | .ok bindings =>
    let scope := captured.getD (r.frames.drop (r.frames.length - depth))
    let inner : Run :=
      { r with
        frames := [] :: scope, out := "", muted := false, parent := none, blocks := [],
        current := none, loaded := [], depth := r.depth + (r.frames.length - scope.length) + callCost }
    if inner.frames.length + inner.depth > Run.maxDepth then .error .invalidOperation
    else (h.enter bindings d.body inner).map Run.collected

/-- A whole number of 64 bits as an argument. -/
def wholeArgument (v : Value) : Except Fault Int :=
  match v.asIndex? with
  | some n => if -Int.pow 2 63 ≤ n ∧ n < Int.pow 2 63 then .ok n else .error .invalidOperation
  | none => .error .invalidOperation

/-- The longest computed range. -/
def maxRange : Nat := 100000

/-- Numbers from `start` to before `stop`. -/
def range (start stop step : Int) : Except Fault Value :=
  if step = 0 then .error .invalidOperation
  else
    let span : Int := if 0 < step then stop - start else start - stop
    let size := step.natAbs
    let count := (span.toNat + size - 1) / size
    if count > maxRange then .error .invalidOperation
    else .ok (.ofStream ((List.range count).map fun (i : Nat) => .int (start + step * i)))

/-- Calls a function every template has. -/
def callBuiltin (name : String) (g : Given) : Except Fault Value :=
  match name, g.all with
  | "range", [] => .error .missingArgument
  | "range", [stop] => (wholeArgument stop).bind fun n => range 0 n 1
  | "range", [start, stop] =>
    match wholeArgument start, (if stop.isAbsent then .ok none else (wholeArgument stop).map some) with
    | .ok a, .ok (some b) => range a b 1
    | .ok a, .ok none => range 0 a 1
    | .error e, _ => .error e
    | _, .error e => .error e
  | "range", [start, stop, step] =>
    match wholeArgument start, wholeArgument stop, wholeArgument step with
    | .ok a, .ok b, .ok s => range a b s
    | _, _, _ => .error .invalidOperation
  | "range", _ => .error .tooManyArguments
  | "dict", [] => .ok (.map [])
  | "dict", [.map pairs] => .ok (.map pairs)
  | "dict", [_] => .error .invalidOperation
  | _, _ => .error .tooManyArguments

/-- Calls a value. -/
def callValue (h : Host) (r : Run) (v : Value) (g : Given) : Except Fault Value :=
  match v with
  | .routine d depth captured => callRoutine h r d depth captured g
  | .builtin name => callBuiltin name g
  | _ => .error .invalidOperation

/-- Calls a member of a value. -/
def callMember (h : Host) (r : Run) (v : Value) (name : String) (g : Given) : Except Fault Value :=
  match v with
  | .map pairs =>
    match Value.valueAt pairs (Value.ofText name) with
    | .undefined => .error .unknownMethod
    | w => callValue h r w g
  | .loop index _ _ _ _ =>
    if name = "cycle" then
      match g.values with
      | [] => .ok .undefined
      | vs => .ok ((vs[index % vs.length]?).getD .undefined)
    else .error .unknownMethod
  | _ => .error .unknownMethod

/-- Runs one of the bodies of a block in a scope of its own. -/
def runBlock (h : Host) (r : Run) (name : String) (index : Nat) : Except Fault Run :=
  match (r.blocks.get name)[index]? with
  | none => .error .invalidOperation
  | some body =>
    match r.push with
    | .error e => .error e
    | .ok inner =>
      match h.enter [] body { inner with current := some (name, index) } with
      | .error e => .error e
      | .ok done => .ok { r with out := done.out }

/-- The text of the body that the running one overrides. -/
def callSuper (h : Host) (r : Run) (g : Given) : Except Fault Value :=
  if !g.all.isEmpty then .error .invalidOperation
  else
    match r.current with
    | none => .error .invalidOperation
    | some (name, index) =>
      if (r.blocks.get name).length ≤ index + 1 then .error .invalidOperation
      else
        match runBlock h r.collecting name (index + 1) with
        | .error e => .error (Fault.as .evalBlock e)
        | .ok done => .ok done.collected

/-- The text of a block. -/
def callBlock (h : Host) (r : Run) (name : String) : Except Fault Value :=
  (runBlock h r.collecting name 0).map Run.collected

/-- Calls what a name stands for. -/
def callName (h : Host) (r : Run) (name : String) (g : Given) : Except Fault Value :=
  if name = "super" then callSuper h r g
  else
    match r.lookup name with
    | .undefined => .error .unknownFunction
    | v => callValue h r v g

/-! ## Expressions -/

/-- The value of a literal. -/
def Literal.value : Literal → Value
  | .missing => .undefined
  | .none => .none
  | .bool b => .bool b
  | .int n => .int n
  | .float x => .float x
  | .text s => Value.ofText s

/-- One argument put in front of others. -/
def Given.cons (name : Option String) (v : Value) (g : Given) : Given :=
  match name with
  | none => { g with values := v :: g.values }
  | some n => { g with named := (n, v) :: g.named }

mutual

/-- The **value** of an expression. -/
def eval (h : Host) (r : Run) : Expr → Except Fault Value
  | .lit l => .ok l.value
  | .var name => .ok (r.lookup name)
  | .neg e =>
    match eval h r e with
    | .error x => .error x
    | .ok v => v.negate
  | .not e =>
    match eval h r e with
    | .error x => .error x
    | .ok v => .ok (.bool !v.truthy)
  | .binary op left right =>
    match eval h r left with
    | .error x => .error x
    | .ok a =>
      if op = .and && !a.truthy then .ok a
      else if op = .or && a.truthy then .ok a
      else
        match eval h r right with
        | .error x => .error x
        | .ok b => Value.operate op a b
  | .cond test yes no =>
    match eval h r test with
    | .error x => .error x
    | .ok t => if t.truthy then eval h r yes else eval h r no
  | .attr e name =>
    match eval h r e with
    | .error x => .error x
    | .ok v => v.attr name
  | .item e key =>
    match eval h r e, eval h r key with
    | .error x, _ => .error x
    | _, .error x => .error x
    | .ok v, .ok k => v.item k
  | .slice e start stop step =>
    match eval h r e, eval h r start, eval h r stop, eval h r step with
    | .error x, _, _, _ => .error x
    | _, .error x, _, _ => .error x
    | _, _, .error x, _ => .error x
    | _, _, _, .error x => .error x
    | .ok v, .ok a, .ok b, .ok s => v.slice a b s
  | .call (.var name) args =>
    match evalArgs h r args with
    | .error x => .error x
    | .ok g => callName h r name g
  | .call (.attr (.var "self") name) args =>
    match evalArgs h r args with
    | .error x => .error x
    | .ok g => if g.all.isEmpty then callBlock h r name else .error .invalidOperation
  | .call (.attr e name) args =>
    match eval h r e, evalArgs h r args with
    | .error x, _ => .error x
    | _, .error x => .error x
    | .ok v, .ok g => callMember h r v name g
  | .call e args =>
    match eval h r e, evalArgs h r args with
    | .error x, _ => .error x
    | _, .error x => .error x
    | .ok v, .ok g => callValue h r v g
  | .filter name e args =>
    match eval h r e, evalArgs h r args with
    | .error x, _ => .error x
    | _, .error x => .error x
    | .ok v, .ok g => Filter.apply name v g
  | .test name e args =>
    match eval h r e, evalArgs h r args with
    | .error x, _ => .error x
    | _, .error x => .error x
    | .ok v, .ok g => (Test.holds name v g).map .bool
  | .list items => (evalAll h r items).map .ofList
  | .map pairs => (evalPairs h r pairs).map .map

/-- The values of the items of a list. -/
def evalAll (h : Host) (r : Run) : List Expr → Except Fault (List Value)
  | [] => .ok []
  | e :: es =>
    match eval h r e, evalAll h r es with
    | .error x, _ => .error x
    | _, .error x => .error x
    | .ok v, .ok vs => .ok (v :: vs)

/-- The pairs of a mapping, in order of keys; of equal keys the last wins. -/
def evalPairs (h : Host) (r : Run) : List (Expr × Expr) → Except Fault (List (Value × Value))
  | [] => .ok []
  | (k, v) :: ps =>
    match eval h r k, eval h r v, evalPairs h r ps with
    | .error x, _, _ => .error x
    | _, .error x, _ => .error x
    | _, _, .error x => .error x
    | .ok k, .ok v, .ok ps =>
      .ok (if ps.any fun p => Value.compare p.1 k == .eq then ps else Value.setPair ps k v)

/-- The values of arguments. -/
def evalArgs (h : Host) (r : Run) : List (Option String × Expr) → Except Fault Given
  | [] => .ok ⟨[], []⟩
  | (name, e) :: args =>
    match eval h r e, evalArgs h r args with
    | .error x, _ => .error x
    | _, .error x => .error x
    | .ok v, .ok g => .ok (g.cons name v)

end

/-- Filters applied one after the other. -/
def evalChain (h : Host) (r : Run) (v : Value) : List (String × Args) → Except Fault Value
  | [] => .ok v
  | (name, args) :: chain =>
    match evalArgs h r args with
    | .error e => .error e
    | .ok g =>
      match Filter.apply name v g with
      | .error e => .error e
      | .ok v => evalChain h r v chain

/-! ## Other templates -/

/-- What including a template costs. -/
def includeCost : Nat := 10

/-- Runs a template in the scopes of this one, with blocks and escaping of its own. -/
def runPage (h : Host) (r : Run) (p : Page) : Except Fault Run :=
  if r.frames.length + r.depth + includeCost > Run.maxDepth then .error .invalidOperation
  else
    let inner :=
      { r with
        blocks := .ofBlocks (blocksOf p.body), loaded := [p.name], escape := escapeOf p.name,
        depth := r.depth + includeCost }
    match h.enter [] p.body inner with
    | .error e => .error (Fault.as .badInclude e)
    | .ok done => .ok { r with frames := done.frames, out := done.out }

/-- Why none of the named templates could be included. -/
def noneFound : List String → Fault
  | [name] => .notFound ("tried to include non-existing template " ++ Text.quoted name)
  | names =>
    .notFound ("tried to include one of multiple templates, none of which existed [" ++
      Text.join ", " (names.map Text.quoted) ++ "]")

/-- Includes the first of the named templates that exists; `missing` are those tried before. -/
def includeFirst (h : Host) (r : Run) (ignoreMissing : Bool) (missing : List String) :
    List Value → Except Fault Run
  | [] =>
    if missing.isEmpty || ignoreMissing then .ok r else .error (noneFound missing)
  | .str name _ :: rest =>
    match h.page name with
    | .ok p => runPage h r p
    | .error (.notFound _) => includeFirst h r ignoreMissing (missing ++ [name]) rest
    | .error e => .error e
  | _ :: _ => .error .invalidOperation

/-- Includes a template, or the first one of a list. -/
def embed (h : Host) (r : Run) (ignoreMissing : Bool) (v : Value) : Except Fault Run :=
  match v with
  | .list names _ => includeFirst h r ignoreMissing [] names
  | .map pairs => includeFirst h r ignoreMissing [] (pairs.map (·.1))
  | v => includeFirst h r ignoreMissing [] [v]

/-- Runs a template for its variables alone, in a scope of its own that stays open. -/
def runForNames (h : Host) (r : Run) (v : Value) : Except Fault Run :=
  match r.push with
  | .error e => .error e
  | .ok inner => embed h { inner with muted := true } false v

/-- A macro that leaves its scopes takes them along. -/
def carried (frames : List Frame) : Value → Value
  | .routine d depth none =>
    .routine d depth (some (frames.drop (frames.length - depth)))
  | v => v

/-- Puts the parent's blocks below the blocks collected so far. -/
def inherit (h : Host) (r : Run) (v : Value) : Except Fault Run :=
  match v with
  | .str name _ =>
    if r.loaded.contains name then .error .invalidOperation
    else
      match h.page name with
      | .error e => .error e
      | .ok p =>
        .ok { r with
          parent := some p, muted := true, loaded := name :: r.loaded,
          blocks := (blocksOf p.body).foldl (fun ls b => ls.add b.1 b.2) r.blocks }
  | _ => .error .invalidOperation

/-! ## Statements -/

/-- Runs a body for every item, with the loop's own variables in scope. -/
def loopOver (body : Run → Except Fault (Flow × Run)) (target : Target) (length : Nat) :
    Nat → Value → List Value → Run → Except Fault Run
  | _, _, [], r => .ok r
  | i, previous, v :: vs, r =>
    match (r.set "loop" (.loop i length 0 previous (vs.head?.getD .undefined))).assign v target with
    | .error e => .error e
    | .ok r =>
      match body r with
      | .error e => .error e
      | .ok (.leave, r) => .ok r
      | .ok (_, r) => loopOver body target length (i + 1) v vs r

/-- The items for which a condition holds. -/
def guarded (h : Host) (r : Run) (target : Target) (guard : Expr) :
    List Value → Except Fault (List Value)
  | [] => .ok []
  | v :: vs =>
    match r.assign v target with
    | .error e => .error e
    | .ok inner =>
      match eval h inner guard, guarded h r target guard vs with
      | .error e, _ => .error e
      | _, .error e => .error e
      | .ok t, .ok kept => .ok (if t.truthy then v :: kept else kept)

/-- Binds targets one after the other. -/
def bindAll (h : Host) : List (Target × Expr) → Run → Except Fault Run
  | [], r => .ok r
  | (t, e) :: bs, r =>
    match eval h r e with
    | .error x => .error x
    | .ok v =>
      match r.assign v t with
      | .error x => .error x
      | .ok r => bindAll h bs r

/-- Assigns imported names, taken from the scopes of the imported template. -/
def assignImported (source : Run) : List (String × String) → Run → Run
  | [], r => r
  | (name, new) :: names, r =>
    assignImported source names (r.set new (carried source.frames (source.lookup name)))

mutual

/-- **Runs** a statement. -/
def exec (h : Host) : Stmt → Run → Except Fault (Flow × Run)
  | .text s, r => .ok (.next, r.write s)
  | .print e, r =>
    match eval h r e with
    | .error x => .error x
    | .ok v =>
      match v.printed r.escape with
      | .error x => .error x
      | .ok s => .ok (.next, r.write s)
  | .loop target items guard body otherwise, r =>
    match eval h r items with
    | .error x => .error x
    | .ok v =>
      match v.items, r.push with
      | .error x, _ => .error x
      | _, .error x => .error x
      | .ok all, .ok inner =>
        match guarded h inner target guard all with
        | .error x => .error x
        | .ok [] => execAll h otherwise r
        | .ok kept =>
          match loopOver (fun r => execAll h body r) target kept.length 0 .undefined kept inner with
          | .error x => .error x
          | .ok done => .ok (.next, done.pop)
  | .branch test yes no, r =>
    match eval h r test with
    | .error x => .error x
    | .ok t => if t.truthy then execAll h yes r else execAll h no r
  | .scoped bindings body, r =>
    match r.push with
    | .error x => .error x
    | .ok inner =>
      match bindAll h bindings inner with
      | .error x => .error x
      | .ok inner =>
        match execAll h body inner with
        | .error x => .error x
        | .ok (flow, done) => .ok (flow, done.pop)
  | .set target e, r =>
    match eval h r e with
    | .error x => .error x
    | .ok v => (r.assign v target).map (Flow.next, ·)
  | .setText target chain body, r =>
    match execAll h body r.collecting with
    | .error x => .error x
    | .ok (flow, done) =>
      match evalChain h done done.collected chain with
      | .error x => .error x
      | .ok v => ((done.writingTo r).assign v target).map (flow, ·)
  | .filtered chain body, r =>
    match execAll h body r.collecting with
    | .error x => .error x
    | .ok (flow, done) =>
      match evalChain h done done.collected chain with
      | .error x => .error x
      | .ok v =>
        match v.printed r.escape with
        | .error x => .error x
        | .ok s => .ok (flow, (done.writingTo r).write s)
  | .block name _, r =>
    if r.muted || r.parent.isSome then .ok (.next, r)
    else (runBlock h r name 0).map (Flow.next, ·)
  | .extend e, r =>
    match eval h r e with
    | .error x => .error x
    | .ok v =>
      if r.parent.isSome then .error .invalidOperation
      else (inherit h r v).map (Flow.next, ·)
  | .embed names ignoreMissing, r =>
    match eval h r names with
    | .error x => .error x
    | .ok v => (embed h r ignoreMissing v).map (Flow.next, ·)
  | .importAll name target, r =>
    match eval h r name with
    | .error x => .error x
    | .ok v =>
      match runForNames h r v with
      | .error x => .error x
      | .ok done =>
        let names := (done.frames.head?.getD []).map fun p =>
          (Value.ofText p.1, carried done.frames p.2)
        ((done.pop.writingTo r).assign (.map names) target).map (Flow.next, ·)
  | .importNames name names, r =>
    match eval h r name with
    | .error x => .error x
    | .ok v =>
      match runForNames h r v with
      | .error x => .error x
      | .ok done => .ok (.next, assignImported done names (done.pop.writingTo r))
  | .define name params defaults body, r =>
    .ok (.next, r.set name (.routine ⟨name, params, defaults, body⟩ r.frames.length none))
  | .leave, r => .ok (.leave, r)
  | .proceed, r => .ok (.proceed, r)

/-- Runs statements in turn, until one leaves the loop or goes on with it. -/
def execAll (h : Host) : List Stmt → Run → Except Fault (Flow × Run)
  | [], r => .ok (.next, r)
  | s :: ss, r =>
    match exec h s r with
    | .error x => .error x
    | .ok (.next, r) => execAll h ss r
    | .ok done => .ok done

end

/-! ## Bodies -/

/-- Binds parameters in turn; a missing argument takes its default. -/
def bindParameters (h : Host) : List Binding → Run → Except Fault Run
  | [], r => .ok r
  | (name, .undefined, some e) :: bs, r =>
    match eval h r e with
    | .error x => .error x
    | .ok v => bindParameters h bs (r.set name v)
  | (name, v, _) :: bs, r => bindParameters h bs (r.set name v)

/-- Runs a body, and then the template that it extends, if any. -/
def runBody (h : Host) (bindings : List Binding) (body : List Stmt) (r : Run) :
    Except Fault Run :=
  match bindParameters h bindings { r with parent := none } with
  | .error x => .error x
  | .ok inner =>
    match execAll h body inner with
    | .error x => .error x
    | .ok (_, done) =>
      match done.parent with
      | none => .ok { done with parent := r.parent }
      | some p => (h.enter [] p.body { done with muted := r.muted }).map ({ · with parent := r.parent })

/-- The host of a level: bodies run inside bodies run at the level below. -/
def Host.level (pages : Pages) : Nat → Host
  | 0 => ⟨pages, fun _ _ _ => .error .invalidOperation⟩
  | n + 1 => ⟨pages, runBody (Host.level pages n)⟩

/-- The name of a template that is no resource. -/
def freeName : String := "<string>"

/-- **Renders** a template against a context, with sources already looked up. -/
def render (pages : Pages) (template : String) (context : Context) : Except Fault String :=
  match parse template with
  | .error e => .error e
  | .ok body =>
    let start : Run :=
      { frames := [context.map fun f => (f.1, Value.ofJson f.2)], out := "", muted := false,
        parent := none, blocks := .ofBlocks (blocksOf body), current := none,
        loaded := [freeName], escape := .plain, depth := 0 }
    ((Host.level pages (Run.maxDepth + 1)).enter [] body start).map (·.out)

end Scaffold.Template
