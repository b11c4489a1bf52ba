import Scaffold.Proofs.Template.Render

/-!
# Proofs/Template/Flat — what flat templates write

A flat template writes texts, prints names and attributes of names, and branches on these.  Where the names
it takes attributes of stand for something it cannot fail, and what it writes is a function of the values of
names alone (`exec_of_isFlat`, `render_of_areFlat`).  So it renders to the same text in all contexts that
have the same under the names it reads (`render_congr_of_ignores`).
-/

namespace Scaffold

namespace Template

/-- An expression that **cannot fail** where some names stand for something: a name, or an attribute of
one of these. -/
def Expr.isSafe (names : List String) : Expr → Bool
  | .var _ => true
  | .attr (.var x) _ => names.contains x
  | _ => false

mutual

/-- A **flat** statement: a text, a safe expression that is printed, or a branch on one. -/
def Stmt.isFlat (names : List String) : Stmt → Bool
  | .text _ => true
  | .print e => e.isSafe names
  | .branch test yes no => test.isSafe names && areFlat names yes && areFlat names no
  | _ => false

/-- Whether all statements are flat. -/
def areFlat (names : List String) : List Stmt → Bool
  | [] => true
  | s :: ss => s.isFlat names && areFlat names ss

end

variable {names : List String} {h : Host} {r : Run} {env env' : String → Value}

/-! ## What is written -/

/-- The **value** of a safe expression, by the values of names. -/
def Expr.valueIn (env : String → Value) : Expr → Value
  | .var x => env x
  | .attr (.var x) name => ((env x).attr name).toOption.getD .undefined
  | _ => .undefined

mutual

/-- What a flat statement **writes**, by the values of names. -/
def Stmt.written (env : String → Value) : Stmt → String
  | .text s => s
  | .print e => (e.valueIn env).text
  | .branch test yes no =>
    if (test.valueIn env).truthy then writtenAll env yes else writtenAll env no
  | _ => ""

/-- What flat statements write. -/
def writtenAll (env : String → Value) : List Stmt → String
  | [] => ""
  | s :: ss => s.written env ++ writtenAll env ss

end

/-- A run that is **ready**: nothing is escaped, and some names stand for something. -/
structure Run.Ready (names : List String) (r : Run) : Prop where
  plain : r.escape = .plain
  known : ∀ x ∈ names, r.lookup x ≠ .undefined

/-- Writing **only writes**. -/
theorem Run.exists_write (r : Run) (s : String) : ∃ out, r.write s = { r with out := out } := by
  rw [write]
  split
  · exact ⟨r.out, rfl⟩
  · exact ⟨_, rfl⟩

/-- Writing nothing **does nothing**. -/
theorem Run.write_empty (r : Run) : r.write "" = r := by
  rw [write, String.append_empty, ite_self]

/-- Writing one text **after the other** is writing both. -/
theorem Run.write_write (r : Run) (s t : String) : (r.write s).write t = r.write (s ++ t) := by
  cases hmuted : r.muted <;> simp [write, hmuted, String.append_assoc]

/-- Writing leaves the **values of names** as they are. -/
theorem Run.lookup_write (r : Run) (s : String) : (r.write s).lookup = r.lookup := by
  obtain ⟨out, hout⟩ := r.exists_write s
  rw [hout]
  rfl

/-- Writing leaves a run **ready**. -/
theorem Run.Ready.write (hr : r.Ready names) (s : String) : (r.write s).Ready names := by
  obtain ⟨out, hout⟩ := r.exists_write s
  rw [hout]
  exact ⟨hr.plain, hr.known⟩

/-- What is something has **every attribute**, if only an undefined one. -/
theorem Value.exists_attr {v : Value} (hv : v ≠ .undefined) (name : String) :
    ∃ w, v.attr name = .ok w := by
  cases v with
  | undefined => exact absurd rfl hv
  | none => exact ⟨_, rfl⟩
  | bool b => exact ⟨_, rfl⟩
  | int n => exact ⟨_, rfl⟩
  | float x => exact ⟨_, rfl⟩
  | str s safe => exact ⟨_, rfl⟩
  | list items stream => exact ⟨_, rfl⟩
  | map pairs => exact ⟨_, rfl⟩
  | loop index length depth previous next => exact ⟨_, rfl⟩
  | routine definition depth captured => exact ⟨_, rfl⟩
  | builtin name => exact ⟨_, rfl⟩

/-- **A safe expression** has a value. -/
theorem eval_of_isSafe (hr : r.Ready names) : ∀ {e : Expr}, e.isSafe names = true →
    eval h r e = .ok (e.valueIn r.lookup)
  | .var x, _ => by rw [eval, Expr.valueIn]
  | .attr (.var x) name, he => by
    obtain ⟨w, hw⟩ := Value.exists_attr (hr.known x (by simpa [Expr.isSafe] using he)) name
    rw [eval, eval, Expr.valueIn]
    simp only [hw]
    rfl

mutual

/-- **A flat statement** writes, and does nothing else. -/
theorem exec_of_isFlat : ∀ {s : Stmt} {r : Run}, s.isFlat names = true → r.Ready names →
    exec h s r = .ok (.next, r.write (s.written r.lookup))
  | .text s, r, _, _ => by rw [exec, Stmt.written]
  | .print e, r, hs, hr => by
    rw [exec, eval_of_isSafe hr hs, Stmt.written]
    simp only [hr.plain, Value.printed]
  | .branch test yes no, r, hs, hr => by
    rw [Stmt.isFlat, Bool.and_eq_true, Bool.and_eq_true] at hs
    rw [exec, eval_of_isSafe hr hs.1.1, Stmt.written]
    by_cases htrue : (test.valueIn r.lookup).truthy = true
    · simp only [htrue, if_true]
      exact execAll_of_areFlat hs.1.2 hr
    · simp only [htrue]
      exact execAll_of_areFlat hs.2 hr

/-- **Flat statements** write, and do nothing else. -/
theorem execAll_of_areFlat : ∀ {ss : List Stmt} {r : Run}, areFlat names ss = true → r.Ready names →
    execAll h ss r = .ok (.next, r.write (writtenAll r.lookup ss))
  | [], r, _, _ => by rw [execAll, writtenAll, r.write_empty]
  | s :: ss, r, hs, hr => by
    rw [areFlat, Bool.and_eq_true] at hs
    rw [execAll, exec_of_isFlat hs.1 hr, writtenAll]
    simp only
    rw [execAll_of_areFlat hs.2 (hr.write _), r.lookup_write, r.write_write]

end

/-! ## What is read -/

/-- The names that a safe expression **reads**. -/
def Expr.reads : Expr → List String
  | .var x => [x]
  | .attr (.var x) _ => [x]
  | _ => []

mutual

/-- The names that a flat statement **reads**. -/
def Stmt.reads : Stmt → List String
  | .print e => e.reads
  | .branch test yes no => test.reads ++ readsAll yes ++ readsAll no
  | _ => []

/-- The names that flat statements read. -/
def readsAll : List Stmt → List String
  | [] => []
  | s :: ss => s.reads ++ readsAll ss

end

/-- A safe expression has the same value wherever the names it reads **have the same values**. -/
theorem Expr.valueIn_congr : ∀ {e : Expr}, e.isSafe names = true → (∀ x ∈ e.reads, env x = env' x) →
    e.valueIn env = e.valueIn env'
  | .var x, _, henv => henv x List.mem_cons_self
  | .attr (.var x) name, _, henv => by
    rw [valueIn, valueIn, henv x List.mem_cons_self]

mutual

/-- A flat statement writes the same wherever the names it reads **have the same values**. -/
theorem written_congr : ∀ {s : Stmt}, s.isFlat names = true → (∀ x ∈ s.reads, env x = env' x) →
    s.written env = s.written env'
  | .text s, _, _ => by rw [Stmt.written, Stmt.written]
  | .print e, hs, henv => by rw [Stmt.written, Stmt.written, Expr.valueIn_congr hs henv]
  | .branch test yes no, hs, henv => by
    rw [Stmt.isFlat, Bool.and_eq_true, Bool.and_eq_true] at hs
    rw [Stmt.reads, List.forall_mem_append, List.forall_mem_append] at henv
    rw [Stmt.written, Stmt.written, Expr.valueIn_congr hs.1.1 henv.1.1,
      writtenAll_congr hs.1.2 henv.1.2, writtenAll_congr hs.2 henv.2]

/-- Flat statements write the same wherever the names they read have the same values. -/
theorem writtenAll_congr : ∀ {ss : List Stmt}, areFlat names ss = true →
    (∀ x ∈ readsAll ss, env x = env' x) → writtenAll env ss = writtenAll env' ss
  | [], _, _ => rfl
  | s :: ss, hs, henv => by
    rw [areFlat, Bool.and_eq_true] at hs
    rw [readsAll, List.forall_mem_append] at henv
    rw [writtenAll, writtenAll, written_congr hs.1 henv.1, writtenAll_congr hs.2 henv.2]

end

/-! ## Rendering -/

variable {ctx ctx' : Context} {text hidden : String} {pages : Pages}

/-- Data is **something**. -/
theorem ofJson_ne_undefined : ∀ v : Json, Value.ofJson v ≠ .undefined
  | .null => Value.noConfusion
  | .bool _ => Value.noConfusion
  | .num (.int _) => Value.noConfusion
  | .num (.float _) => Value.noConfusion
  | .str _ => Value.noConfusion
  | .arr _ => Value.noConfusion
  | .obj _ => Value.noConfusion

/-- The **value of a name** where a rendering starts. -/
def valueIn (ctx : Context) (name : String) : Value :=
  Run.lookupIn name [ctx.map fun f => (f.1, Value.ofJson f.2)]

/-- A name has the **same value** where contexts have the same under it. -/
theorem valueIn_congr {x : String} (h : Fields.get? ctx x = Fields.get? ctx' x) :
    valueIn ctx x = valueIn ctx' x := by
  simp only [valueIn, Run.lookupIn, get?_frame, h]

/-- What a context has **stands for something**. -/
theorem valueIn_ne_undefined {x : String} (h : Fields.has ctx x = true) :
    valueIn ctx x ≠ .undefined := by
  obtain ⟨v, hv⟩ := Option.isSome_iff_exists.mp h
  rw [valueIn, Run.lookupIn, get?_frame, hv]
  exact ofJson_ne_undefined v

/-- **An attribute** of a name has the value that the context has there. -/
theorem valueIn_attribute {object name s : String} {v : Json}
    (hobject : Fields.get? ctx object = some v) (hname : v.member? name = some (.str s)) :
    (Expr.attr (.var object) name).valueIn (valueIn ctx) = .str s false := by
  have hvalue : valueIn ctx object = Value.ofJson v := by
    rw [valueIn, Run.lookupIn, get?_frame, hobject]
    rfl
  rw [Expr.valueIn, hvalue, attr_ofJson hname]
  rfl

/-- The state a rendering **starts** in. -/
def startOf (ctx : Context) (body : List Stmt) : Run :=
  { frames := [ctx.map fun f => (f.1, Value.ofJson f.2)], out := "", muted := false, parent := none,
    blocks := .ofBlocks (blocksOf body), current := none, loaded := [freeName], escape := .plain,
    depth := 0 }

/-- A rendering starts **ready**, where the context has the names. -/
theorem ready_startOf {body : List Stmt} (hctx : ∀ x ∈ names, Fields.has ctx x = true) :
    (startOf ctx body).Ready names :=
  ⟨rfl, fun x hx => valueIn_ne_undefined (hctx x hx)⟩

/-- **Rendering** runs a text from the start. -/
theorem render_eq {body : List Stmt} (hparse : parse text = .ok body) : render pages text ctx =
    (runBody (Host.level pages Run.maxDepth) [] body (startOf ctx body)).map (·.out) := by
  rw [render, hparse]
  rfl

/-- **A flat template** renders to what it writes, where the context has the names. -/
theorem render_of_areFlat {body : List Stmt} (hparse : parse text = .ok body)
    (hbody : areFlat names body = true) (hctx : ∀ x ∈ names, Fields.has ctx x = true) :
    render pages text ctx = .ok (writtenAll (valueIn ctx) body) := by
  have hout : (startOf ctx body).write (writtenAll (valueIn ctx) body) =
      { startOf ctx body with out := writtenAll (valueIn ctx) body } := by
    simp [Run.write, startOf]
  have hrun : execAll (Host.level pages Run.maxDepth) body { startOf ctx body with parent := none } =
      .ok (.next, (startOf ctx body).write (writtenAll (valueIn ctx) body)) :=
    execAll_of_areFlat hbody (ready_startOf hctx)
  rw [render_eq hparse, runBody, bindParameters]
  simp only [hrun, hout]
  rfl

/-- **A template of one attribute** renders to the text that the context has there. -/
theorem render_attribute {object name s : String} {v : Json}
    (hparse : parse text = .ok [.print (.attr (.var object) name)])
    (hobject : Fields.get? ctx object = some v) (hname : v.member? name = some (.str s)) :
    render pages text ctx = .ok s := by
  have hflat : areFlat [object] [.print (.attr (.var object) name)] = true := by
    simp [areFlat, Stmt.isFlat, Expr.isSafe]
  have hctx : ∀ x ∈ [object], Fields.has ctx x = true := by simp [Fields.has, hobject]
  rw [render_of_areFlat hparse hflat hctx]
  simp only [writtenAll, Stmt.written, valueIn_attribute hobject hname, Value.text,
    String.append_empty]

/-- Whether a text is a flat template that **does not read** a name. -/
def ignores (names : List String) (hidden text : String) : Bool :=
  match parse text with
  | .ok body => areFlat names body && !(readsAll body).contains hidden
  | .error _ => false

/-- A text that does not read a name is **parsed** as a flat template. -/
theorem exists_parse_of_ignores (h : ignores names hidden text = true) : ∃ body,
    parse text = .ok body ∧ areFlat names body = true ∧ hidden ∉ readsAll body := by
  rw [ignores] at h
  split at h
  · next body hparse =>
    rw [Bool.and_eq_true, Bool.not_eq_true', List.contains_eq_mem, decide_eq_false_iff_not] at h
    exact ⟨body, hparse, h⟩
  · simp at h

/-- **What is not read makes no difference**: a text that does not read a name renders to the same in all
contexts that have the same under the others. -/
theorem render_congr_of_ignores (h : ignores names hidden text = true)
    (hctx : ∀ x ∈ names, Fields.has ctx x = true) (hctx' : ∀ x ∈ names, Fields.has ctx' x = true)
    (hagree : ∀ x, x ≠ hidden → Fields.get? ctx x = Fields.get? ctx' x) :
    ∃ s, render pages text ctx = .ok s ∧ render pages text ctx' = .ok s := by
  obtain ⟨body, hparse, hbody, hhidden⟩ := exists_parse_of_ignores h
  have hsame : writtenAll (valueIn ctx) body = writtenAll (valueIn ctx') body :=
    writtenAll_congr hbody fun x hx => valueIn_congr (hagree x (ne_of_mem_of_not_mem hx hhidden))
  exact ⟨_, render_of_areFlat hparse hbody hctx, hsame ▸ render_of_areFlat hparse hbody hctx'⟩

end Template

end Scaffold
