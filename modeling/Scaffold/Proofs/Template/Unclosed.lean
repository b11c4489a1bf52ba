import Mathlib.Data.List.Infix
import Scaffold.Template.Grammar

/-!
# Proofs/Template/Unclosed — a tag that is never closed

A reader takes tokens from the front and makes up none: what it leaves is a suffix of what it was given
(`Grammar.drops`, and the readers below it).  A tag asks for its closing token behind the expressions and
names that it holds, so where that token does not come the tag is refused (`Grammar.stmts_unclosed`).
-/

namespace Scaffold.Template

/-- The token that **opens** a tag. -/
def TagKind.opening : TagKind → Token
  | .print => .openPrint
  | .tag => .openTag

/-- The token that **closes** a tag. -/
def TagKind.closing : TagKind → Token
  | .print => .closePrint
  | .tag => .closeTag

namespace Grammar

variable {fuel : Nat} {ts rest : List Token}

/-! ## Single tokens -/

/-- What is behind a token that is demanded is **a suffix**. -/
@[grind →] theorem expect_suffix {t : Token} (h : expect t ts = .ok rest) : rest <:+ ts := by
  unfold expect at h
  grind [List.suffix_cons]

/-- A token that is demanded **has to come**. -/
@[grind →] theorem mem_of_expect {t : Token} (h : expect t ts = .ok rest) : t ∈ ts := by
  unfold expect at h
  grind

@[grind →] theorem keyword_suffix {w : String} (h : keyword w ts = .ok rest) : rest <:+ ts :=
  expect_suffix h

/-- What is behind a separator, if one is demanded, is **a suffix**. -/
theorem separated_suffix {t : Token} {first : Bool}
    (h : (if first then .ok ts else expect t ts) = Except.ok rest) : rest <:+ ts := by
  cases first with
  | true => exact Except.ok.inj h ▸ List.suffix_refl ts
  | false => exact expect_suffix h

@[grind →] theorem anyName_suffix {s : String} (h : anyName ts = .ok (s, rest)) : rest <:+ ts := by
  unfold anyName at h
  grind [List.suffix_cons]

@[grind →] theorem targetName_suffix {s : String} (h : targetName ts = .ok (s, rest)) : rest <:+ ts := by
  unfold targetName at h
  grind [List.suffix_cons]

@[grind →] theorem contextWords_suffix (h : contextWords ts = .ok rest) : rest <:+ ts := by
  unfold contextWords at h
  grind [List.suffix_cons, List.IsSuffix.trans]

/-! ## Expressions -/

/-- What the readers of expressions leave is **a suffix** of what they are given, however long they may
read. -/
structure Drops (fuel : Nat) : Prop where
  expr : ∀ {ts e rest}, expr fuel ts = .ok (e, rest) → rest <:+ ts
  conditions : ∀ {yes ts e rest}, conditions fuel yes ts = .ok (e, rest) → rest <:+ ts
  level : ∀ {n ts e rest}, level fuel n ts = .ok (e, rest) → rest <:+ ts
  operations : ∀ {n left ts e rest}, operations fuel n left ts = .ok (e, rest) → rest <:+ ts
  comparisons : ∀ {left ts e rest}, comparisons fuel left ts = .ok (e, rest) → rest <:+ ts
  unary : ∀ {ts e rest}, unary fuel ts = .ok (e, rest) → rest <:+ ts
  signed : ∀ {ts e rest}, signed fuel ts = .ok (e, rest) → rest <:+ ts
  attached : ∀ {e ts x rest}, attached fuel e ts = .ok (x, rest) → rest <:+ ts
  subscript : ∀ {e ts x rest}, subscript fuel e ts = .ok (x, rest) → rest <:+ ts
  sliceEnd : ∀ {e start ts x rest}, sliceEnd fuel e start ts = .ok (x, rest) → rest <:+ ts
  sliceStep : ∀ {e start stop ts x rest}, sliceStep fuel e start stop ts = .ok (x, rest) → rest <:+ ts
  arguments : ∀ {acc ts args rest}, arguments fuel acc ts = .ok (args, rest) → rest <:+ ts
  filters : ∀ {e ts x rest}, filters fuel e ts = .ok (x, rest) → rest <:+ ts
  testOf : ∀ {e ts x rest}, testOf fuel e ts = .ok (x, rest) → rest <:+ ts
  primary : ∀ {ts e rest}, primary fuel ts = .ok (e, rest) → rest <:+ ts
  items : ∀ {close acc ts es rest}, items fuel close acc ts = .ok (es, rest) → rest <:+ ts
  pairs : ∀ {acc ts ps rest}, pairs fuel acc ts = .ok (ps, rest) → rest <:+ ts

/-- **Reading an expression** leaves a suffix. -/
theorem drops : ∀ fuel, Drops fuel
  | 0 => by constructor <;> intros <;> contradiction
  | fuel + 1 => by
    -- a reader calls the others with less fuel: what it leaves is a suffix of what they leave
    have ih := drops fuel
    constructor
    case expr =>
      intro ts e rest h
      unfold Grammar.expr at h
      grind [Drops, List.IsSuffix.trans]
    case conditions =>
      intro yes ts e rest h
      unfold Grammar.conditions at h
      grind [Drops, List.suffix_cons, List.IsSuffix.trans]
    case level =>
      intro n ts e rest h
      unfold Grammar.level at h
      grind [Drops, List.suffix_cons, List.IsSuffix.trans]
    case operations =>
      intro n left ts e rest h
      unfold Grammar.operations at h
      grind [Drops, List.suffix_cons, List.IsSuffix.trans]
    case comparisons =>
      intro left ts e rest h
      unfold Grammar.comparisons at h
      grind [Drops, List.suffix_cons, List.IsSuffix.trans]
    case unary =>
      intro ts e rest h
      unfold Grammar.unary at h
      grind [Drops, List.suffix_cons, List.IsSuffix.trans]
    case signed =>
      intro ts e rest h
      unfold Grammar.signed at h
      grind [Drops, List.suffix_cons, List.IsSuffix.trans]
    case attached =>
      intro e ts x rest h
      unfold Grammar.attached at h
      grind [Drops, List.suffix_cons, List.IsSuffix.trans]
    case subscript =>
      intro e ts x rest h
      unfold Grammar.subscript at h
      grind [Drops, List.suffix_cons, List.IsSuffix.trans]
    case sliceEnd =>
      intro e start ts x rest h
      unfold Grammar.sliceEnd at h
      grind [Drops, List.suffix_cons, List.IsSuffix.trans]
    case sliceStep =>
      intro e start stop ts x rest h
      unfold Grammar.sliceStep at h
      grind [Drops, List.suffix_cons, List.IsSuffix.trans]
    case arguments =>
      intro acc ts args rest h
      unfold Grammar.arguments at h
      grind [Drops, List.suffix_cons, List.IsSuffix.trans]
    case filters =>
      intro e ts x rest h
      unfold Grammar.filters at h
      grind [Drops, List.suffix_cons, List.IsSuffix.trans]
    case testOf =>
      intro e ts x rest h
      unfold Grammar.testOf at h
      grind [Drops, List.suffix_cons, List.IsSuffix.trans]
    case primary =>
      intro ts e rest h
      unfold Grammar.primary at h
      grind [Drops, List.suffix_cons, List.IsSuffix.trans]
    case items =>
      intro close acc ts es rest h
      unfold Grammar.items at h
      grind [Drops, List.suffix_cons, List.IsSuffix.trans]
    case pairs =>
      intro acc ts ps rest h
      unfold Grammar.pairs at h
      grind [Drops, List.suffix_cons, List.IsSuffix.trans]

@[grind →] theorem anExpr_suffix {e : Expr} (h : anExpr ts = .ok (e, rest)) : rest <:+ ts :=
  (drops _).expr h

@[grind →] theorem plainExpr_suffix {e : Expr} (h : plainExpr ts = .ok (e, rest)) : rest <:+ ts :=
  (drops _).level h

/-! ## What tags hold besides expressions -/

@[grind →] theorem optionalArguments_suffix {args : Args}
    (h : optionalArguments ts = .ok (args, rest)) : rest <:+ ts := by
  unfold optionalArguments at h
  split at h
  · exact ((drops _).arguments h).trans (List.suffix_cons _ _)
  · exact (Prod.mk.inj (Except.ok.inj h)).2 ▸ List.suffix_refl _

/-- **Reading filters** leaves a suffix. -/
@[grind →] theorem filterChain_suffix {chain : List (String × Args)} :
    ∀ {fuel : Nat} {acc : List (String × Args)} {ts : List Token},
      filterChain fuel acc ts = .ok (chain, rest) → rest <:+ ts
  | 0, _, _, h => nomatch h
  | fuel + 1, acc, ts, h => by
    have ih := @filterChain_suffix chain fuel
    unfold filterChain at h
    split at h
    · grind
    · split at h
      · contradiction
      next hseparated =>
      have hfirst := separated_suffix hseparated
      grind [List.IsSuffix.trans]

/-- **Reading targets** leaves a suffix. -/
@[grind →] theorem targets_suffix : ∀ {fuel : Nat} {acc : List Target} {several : Bool} {ts : List Token}
    {t : Target} {rest : List Token}, targets fuel acc several ts = .ok (t, rest) → rest <:+ ts
  | 0, _, _, _, _, _, h => nomatch h
  | fuel + 1, acc, several, ts, t, rest, h => by
    have ih := @targets_suffix fuel
    unfold targets at h
    split at h
    · contradiction
    next hseparated =>
    have hfirst := separated_suffix hseparated
    grind [List.suffix_cons, List.IsSuffix.trans]

@[grind →] theorem someTargets_suffix {t : Target} (h : someTargets ts = .ok (t, rest)) : rest <:+ ts :=
  targets_suffix h

/-- **Reading bindings** leaves a suffix. -/
@[grind →] theorem bindings_suffix {bs : List (Target × Expr)} :
    ∀ {fuel : Nat} {acc : List (Target × Expr)} {ts : List Token},
      bindings fuel acc ts = .ok (bs, rest) → rest <:+ ts
  | 0, _, _, h => nomatch h
  | fuel + 1, acc, ts, h => by
    have ih := @bindings_suffix bs fuel
    unfold bindings at h
    split at h
    · contradiction
    · grind
    · split at h
      · contradiction
      next hseparated =>
      have hfirst := separated_suffix hseparated
      grind [List.suffix_cons, List.IsSuffix.trans]

/-- **Reading imported names** leaves a suffix. -/
@[grind →] theorem importedNames_suffix {names : List (String × String)} :
    ∀ {fuel : Nat} {acc : List (String × String)} {ts : List Token},
      importedNames fuel acc ts = .ok (names, rest) → rest <:+ ts
  | 0, _, _, h => nomatch h
  | fuel + 1, acc, ts, h => by
    have ih := @importedNames_suffix names fuel
    unfold importedNames at h
    split at h
    · grind
    · split at h
      · contradiction
      next hseparated =>
      have hfirst := separated_suffix hseparated
      grind [List.suffix_cons, List.IsSuffix.trans]

/-- **Reading parameters** leaves a suffix. -/
@[grind →] theorem parameters_suffix {p : List String × List Expr} :
    ∀ {fuel : Nat} {names : List String} {defaults : List Expr} {ts : List Token},
      parameters fuel names defaults ts = .ok (p, rest) → rest <:+ ts
  | 0, _, _, _, h => nomatch h
  | fuel + 1, names, defaults, ts, h => by
    have ih := @parameters_suffix p fuel
    unfold parameters at h
    split at h
    · contradiction
    · grind [List.suffix_cons]
    · split at h
      · contradiction
      all_goals
        next hseparated =>
        have hfirst := separated_suffix hseparated
        grind [List.suffix_cons, List.IsSuffix.trans]

/-! ## Tags -/

variable {place : Place} {word : String} {s : Stmt}

/-- A tag that is complete in itself leaves **a suffix**. -/
theorem simpleTag_suffix (h : simpleTag place word ts = some (.ok (s, rest))) : rest <:+ ts := by
  unfold simpleTag at h
  split_ifs at h
  case pos => grind
  case pos =>
    have h := Option.some.inj h
    split at h
    · contradiction
    · grind [List.suffix_cons, List.IsSuffix.trans]
  case pos =>
    have h := Option.some.inj h
    split at h
    · contradiction
    · split at h
      · contradiction
      · grind [List.IsSuffix.trans]
  all_goals grind [List.IsSuffix.trans]

/-- A token of what is left is **a token of what was given**. -/
theorem mem_of_suffix {t : Token} (hsuffix : rest <:+ ts) (h : t ∈ rest) : t ∈ ts := hsuffix.subset h

/-- A body that is read **has its tag closed**. -/
@[grind →] theorem mem_of_body {stop : String} {ss : List Stmt}
    (h : body fuel place stop ts = .ok (ss, rest)) : Token.closeTag ∈ ts := by
  unfold body at h
  grind

/-- A branch that is read **has its tag closed**. -/
@[grind →] theorem mem_of_branches {test : Expr} (h : branches fuel place test ts = .ok (s, rest)) :
    Token.closeTag ∈ ts := by
  unfold branches at h
  grind

/-- A loop that is read **has its tag closed**. -/
@[grind →] theorem mem_of_forTag (h : forTag fuel place ts = .ok (s, rest)) : Token.closeTag ∈ ts := by
  unfold forTag at h
  split at h
  · contradiction
  split at h
  · contradiction
  next htargets =>
  split at h
  · contradiction
  next hin =>
  split at h
  · contradiction
  next hitems =>
  have hsuffix : _ <:+ ts :=
    ((plainExpr_suffix hitems).trans (keyword_suffix hin)).trans (someTargets_suffix htargets)
  dsimp only at h
  split at h
  · contradiction
  next hguard =>
  split at hguard
  · grind [mem_of_suffix, List.suffix_cons]
  · grind [mem_of_suffix]

/-- An assignment that is read **has its tag closed**, or leaves a suffix. -/
@[grind →] theorem mem_or_suffix_of_setTag (h : setTag fuel place ts = .ok (s, rest)) :
    Token.closeTag ∈ ts ∨ rest <:+ ts := by
  unfold setTag at h
  split at h
  · contradiction
  split at h
  · contradiction
  · grind [List.suffix_cons, List.IsSuffix.trans]
  · grind [mem_of_suffix]
  · next htargets =>
    have hsuffix := (List.suffix_cons _ _).trans (someTargets_suffix htargets)
    grind [mem_of_suffix]
  · contradiction

/-- A tag that is read **has its end**, or leaves a suffix. -/
@[grind →] theorem mem_or_suffix_of_tag (h : tag fuel place word ts = .ok (s, rest)) :
    Token.closeTag ∈ ts ∨ rest <:+ ts := by
  unfold tag at h
  split at h
  · contradiction
  split at h
  · next hsimple => exact Or.inr (simpleTag_suffix (h ▸ hsimple))
  split_ifs at h
  all_goals grind [mem_of_suffix, List.suffix_cons, List.IsSuffix.trans]

/-- **A tag that is never closed** is refused. -/
theorem stmts_unclosed {kind : TagKind} {inner : List Token} {ss : List Stmt}
    (hnone : kind.closing ∉ inner) : stmts fuel place [] (kind.opening :: inner) ≠ .ok (ss, rest) := by
  intro h
  cases fuel with
  | zero => exact nomatch h
  | succ fuel =>
    cases kind with
    | print =>
      rw [TagKind.opening, stmts] at h
      split at h
      · contradiction
      · next hexpr => exact hnone (mem_of_suffix (anExpr_suffix hexpr) List.mem_cons_self)
      · contradiction
    | tag =>
      obtain ⟨word, back, rfl⟩ : ∃ word back, inner = .name word :: back := by
        unfold stmts at h
        grind [TagKind.opening]
      rw [TagKind.opening, stmts, List.contains_nil, if_neg Bool.false_ne_true] at h
      split at h
      · contradiction
      · next htag =>
        -- the end is a token of the tag itself, or it comes behind it
        rcases mem_or_suffix_of_tag htag with hmem | hsuffix
        · exact hnone (List.mem_cons_of_mem _ hmem)
        · exact hnone (List.mem_cons_of_mem _ (mem_of_suffix hsuffix List.mem_cons_self))
      · contradiction

end Grammar

end Scaffold.Template
