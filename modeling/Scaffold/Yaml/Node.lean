import Scaffold.Yaml.Token

/-!
# Yaml/Node — the tree a document writes

The tokens of a document make a tree of nodes (`Node.ofText?`).  A document that holds nothing has no
node, and a text holds at most one document.  A node may be named and stand in another place by its
name: `Node.resolve?` puts the named nodes in the places of their aliases.  Names are numbered by how
many different names there were before, so a name used twice gives its second node the number of the
next new one; the last node with a number is the one its aliases stand for.
-/

namespace Scaffold.Yaml

/-- A **node** of a document. -/
inductive Node where
  | scalar (tag : Option String) (plain : Bool) (text : String)
  | seq (tag : Option String) (items : List Node)
  | map (tag : Option String) (pairs : List (Node × Node))
  | alias (number : Nat)
  | anchored (number : Nat) (node : Node)
deriving Inhabited

namespace Node

/-- The node where nothing is written. -/
def empty : Node := .scalar none true ""

/-- What is left to read: tokens, the handles of tags, and the names so far with their numbers. -/
structure Rest where
  tokens : List Token
  handles : List (String × String)
  names : List (String × Nat)

/-- The rest behind other tokens. -/
def Rest.at (r : Rest) (tokens : List Token) : Rest := { r with tokens := tokens }

/-! ## Names and tags -/

/-- The name and the tag before a node, in either order, and the tokens behind them. -/
def properties : List Token → Option String × Option (String × String) × List Token
  | .anchor a :: .tag h s :: ts => (some a, some (h, s), ts)
  | .tag h s :: .anchor a :: ts => (some a, some (h, s), ts)
  | .anchor a :: ts => (some a, none, ts)
  | .tag h s :: ts => (none, some (h, s), ts)
  | ts => (none, none, ts)

/-- What a tag is short for; an unknown handle is refused. -/
def fullTag? (handles : List (String × String)) : Option (String × String) → Option (Option String)
  | none => some none
  | some ("", suffix) => some (some suffix)
  | some (handle, suffix) => (handles.lookup handle).map fun stem => some (stem ++ suffix)

/-- Numbers a name. -/
def register (r : Rest) : Option String → Rest × (Node → Node)
  | none => (r, id)
  | some a =>
    let number := r.names.length
    ({ r with names := (a, number) :: r.names.filter fun n => n.1 ≠ a }, .anchored number)

/-- The tag of a text; a lone mark says nothing. -/
def textTag : Option String → Option String
  | some "!" => none
  | tag => tag

/-! ## Reading -/

/-- Whether the entry of a list behind a dash is empty. -/
def endsEntry : List Token → Bool
  | .entry :: _ => true
  | .blockEnd :: _ => true
  | _ => false

/-- Whether a key or a value of a block is empty. -/
def endsPart : List Token → Bool
  | .key :: _ => true
  | .value :: _ => true
  | .blockEnd :: _ => true
  | _ => false

/-- Whether a key inside brackets is empty. -/
def endsFlowKey (close : Token) : List Token → Bool
  | .value :: _ => true
  | .comma :: _ => true
  | t :: _ => t == close
  | [] => false

/-- Whether a value inside brackets is empty. -/
def endsFlowValue (close : Token) : List Token → Bool
  | .comma :: _ => true
  | t :: _ => t == close
  | [] => false

/-- Moves over the comma between two items inside brackets. -/
def overComma (first : Bool) (r : Rest) : Option Rest :=
  if first then some r
  else
    match r.tokens with
    | .comma :: ts => some (r.at ts)
    | _ => none

mutual

/-- Reads a node.  Inside brackets no block opens; `loose` allows the dashes of a list in the column of
the key before it. -/
def read (block loose : Bool) : Nat → Rest → Option (Node × Rest)
  | 0, _ => none
  | fuel + 1, r =>
    match r.tokens with
    | .alias name :: ts => (r.names.lookup name).map fun n => (.alias n, r.at ts)
    | _ =>
      let (name, short, ts) := properties r.tokens
      match fullTag? r.handles short with
      | none => none
      | some tag =>
        let (r, named) := register (r.at ts) name
        let node := content block loose fuel tag (name.isSome || tag.isSome) r
        node.map fun (n, r) => (named n, r)

/-- Reads a node behind its name and tag. -/
def content (block loose : Bool) : Nat → Option String → Bool → Rest → Option (Node × Rest)
  | 0, _, _, _ => none
  | fuel + 1, tag, marked, r =>
    match r.tokens with
    | .scalar text plain :: ts => some (.scalar (textTag tag) plain text, r.at ts)
    | .openSequence :: ts => (flowItems fuel true (r.at ts)).map fun (ns, r) => (.seq tag ns, r)
    | .openMapping :: ts => (flowPairs fuel true (r.at ts)).map fun (ps, r) => (.map tag ps, r)
    | t :: ts =>
      if loose && t == .entry then (looseItems fuel r).map fun (ns, r) => (.seq tag ns, r)
      else if block && t == .blockSequence then
        (blockItems fuel (r.at ts)).map fun (ns, r) => (.seq tag ns, r)
      else if block && t == .blockMapping then
        (blockPairs fuel (r.at ts)).map fun (ps, r) => (.map tag ps, r)
      else if marked then some (.scalar tag true "", r)
      else none
    | [] => if marked then some (.scalar tag true "", r) else none

/-- Reads the items of a list up to the end of its block. -/
def blockItems : Nat → Rest → Option (List Node × Rest)
  | 0, _ => none
  | fuel + 1, r =>
    match r.tokens with
    | .entry :: ts =>
      let item := if endsEntry ts then some (empty, r.at ts) else read true false fuel (r.at ts)
      item.bind fun (n, r) => (blockItems fuel r).map fun (ns, r) => (n :: ns, r)
    | .blockEnd :: ts => some ([], r.at ts)
    | _ => none

/-- Reads the items of a list that has no block of its own. -/
def looseItems : Nat → Rest → Option (List Node × Rest)
  | 0, _ => none
  | fuel + 1, r =>
    match r.tokens with
    | .entry :: ts =>
      let item :=
        if endsEntry ts || endsPart ts then some (empty, r.at ts) else read true false fuel (r.at ts)
      item.bind fun (n, r) => (looseItems fuel r).map fun (ns, r) => (n :: ns, r)
    | _ => some ([], r)

/-- Reads the pairs of a mapping up to the end of its block. -/
def blockPairs : Nat → Rest → Option (List (Node × Node) × Rest)
  | 0, _ => none
  | fuel + 1, r =>
    match r.tokens with
    | .key :: ts =>
      let key := if endsPart ts then some (empty, r.at ts) else read true true fuel (r.at ts)
      key.bind fun (k, r) =>
        (blockValue fuel r).bind fun (v, r) =>
          (blockPairs fuel r).map fun (ps, r) => ((k, v) :: ps, r)
    | .blockEnd :: ts => some ([], r.at ts)
    | _ => none

/-- Reads the value of a pair. -/
def blockValue : Nat → Rest → Option (Node × Rest)
  | 0, _ => none
  | fuel + 1, r =>
    match r.tokens with
    | .value :: ts => if endsPart ts then some (empty, r.at ts) else read true true fuel (r.at ts)
    | _ => some (empty, r)

/-- Reads the items between square brackets; an item may be a single pair. -/
def flowItems : Nat → Bool → Rest → Option (List Node × Rest)
  | 0, _, _ => none
  | fuel + 1, first, r =>
    match r.tokens with
    | .closeSequence :: ts => some ([], r.at ts)
    | _ =>
      (overComma first r).bind fun r =>
        match r.tokens with
        | .closeSequence :: ts => some ([], r.at ts)
        | .key :: ts =>
          (flowPair fuel (r.at ts)).bind fun (n, r) =>
            (flowItems fuel false r).map fun (ns, r) => (n :: ns, r)
        | _ =>
          (read false false fuel r).bind fun (n, r) =>
            (flowItems fuel false r).map fun (ns, r) => (n :: ns, r)

/-- Reads a single pair between square brackets.  Where its key is empty, the token behind is passed
over. -/
def flowPair : Nat → Rest → Option (Node × Rest)
  | 0, _ => none
  | fuel + 1, r =>
    let key :=
      if endsFlowKey .closeSequence r.tokens then some (empty, r.at r.tokens.tail)
      else read false false fuel r
    key.bind fun (k, r) =>
      (flowValue .closeSequence fuel r).map fun (v, r) => (.map none [(k, v)], r)

/-- Reads the value of a pair inside brackets. -/
def flowValue (close : Token) : Nat → Rest → Option (Node × Rest)
  | 0, _ => none
  | fuel + 1, r =>
    match r.tokens with
    | .value :: ts =>
      if endsFlowValue close ts then some (empty, r.at ts) else read false false fuel (r.at ts)
    | _ => some (empty, r)

/-- Reads the pairs between curly brackets. -/
def flowPairs : Nat → Bool → Rest → Option (List (Node × Node) × Rest)
  | 0, _, _ => none
  | fuel + 1, first, r =>
    match r.tokens with
    | .closeMapping :: ts => some ([], r.at ts)
    | _ =>
      (overComma first r).bind fun r =>
        match r.tokens with
        | .closeMapping :: ts => some ([], r.at ts)
        | _ =>
          (flowEntry fuel r).bind fun (p, r) =>
            (flowPairs fuel false r).map fun (ps, r) => (p :: ps, r)

/-- Reads a pair between curly brackets; a key alone has an empty value. -/
def flowEntry : Nat → Rest → Option ((Node × Node) × Rest)
  | 0, _ => none
  | fuel + 1, r =>
    match r.tokens with
    | .key :: ts =>
      let key :=
        if endsFlowKey .closeMapping ts then some (empty, r.at ts)
        else read false false fuel (r.at ts)
      key.bind fun (k, r) =>
        (flowValue .closeMapping fuel r).map fun (v, r) => ((k, v), r)
    | _ => (read false false fuel r).map fun (k, r) => ((k, empty), r)

end

/-! ## Documents -/

/-- The handles every document knows. -/
def standardHandles : List (String × String) := [("!", "!"), ("!!", "tag:yaml.org,2002:")]

/-- Reads the directives of a document: its handles, and the tokens behind. -/
def directives (versioned : Bool) (handles : List (String × String)) :
    List Token → Option (List (String × String) × List Token)
  | .version major minor :: ts =>
    if versioned || major ≠ 1 || !(minor = 1 || minor = 2) then none
    else directives true handles ts
  | .tagHandle handle stem :: ts =>
    if (handles.lookup handle).isSome then none
    else directives versioned ((handle, stem) :: handles) ts
  | ts => some (handles ++ standardHandles, ts)

/-- Whether a document that has started explicitly is empty. -/
def endsDocument : List Token → Bool
  | [] => true
  | .version _ _ :: _ => true
  | .tagHandle _ _ :: _ => true
  | .documentStart :: _ => true
  | .documentEnd :: _ => true
  | _ => false

/-- Reads the node of a document behind its start. -/
def body (r : Rest) : Option (Node × Rest) := read true false (5 * (r.tokens.length + 1)) r

/-- Reads the node of a document, if it has one. -/
def document (ts : List Token) : Option (Option Node × List Token) :=
  match ts with
  | [] => some (none, [])
  | ts =>
    if endsDocument ts && ts.head? ≠ some .documentEnd then
      match directives false [] ts with
      | some (handles, .documentStart :: ts) =>
        if endsDocument ts then some (some empty, ts)
        else (body ⟨ts, handles, []⟩).map fun (n, r) => (some n, r.tokens)
      | _ => none
    else (body ⟨ts, standardHandles, []⟩).map fun (n, r) => (some n, r.tokens)

/-- The **node** of a text that holds one document, if it holds anything. -/
def ofText? (text : String) : Option (Option Node) :=
  match (Token.ofText? text).bind document with
  | none => none
  | some (node, rest) => if rest.all (· == .documentEnd) then some node else none

/-! ## Aliases -/

mutual

/-- The named nodes with their numbers, a node before those in it. -/
def named : Node → List (Nat × Node)
  | .anchored number n => (number, n) :: named n
  | .seq _ items => namedItems items
  | .map _ pairs => namedPairs pairs
  | _ => []

/-- The named nodes among items. -/
def namedItems : List Node → List (Nat × Node)
  | [] => []
  | n :: ns => named n ++ namedItems ns

/-- The named nodes among pairs. -/
def namedPairs : List (Node × Node) → List (Nat × Node)
  | [] => []
  | (k, v) :: ps => named k ++ named v ++ namedPairs ps

end

mutual

/-- How many steps it takes to read a node. -/
def steps : Node → Nat
  | .anchored _ n => steps n
  | .seq _ items => 2 + stepsItems items
  | .map _ pairs => 2 + stepsPairs pairs
  | _ => 1

/-- The steps of items. -/
def stepsItems : List Node → Nat
  | [] => 0
  | n :: ns => steps n + stepsItems ns

/-- The steps of pairs. -/
def stepsPairs : List (Node × Node) → Nat
  | [] => 0
  | (k, v) :: ps => steps k + steps v + stepsPairs ps

end

/-- Applies a step that uses up a budget to every item. -/
def spend {α β : Type} (f : Nat → α → Option (β × Nat)) : Nat → List α → Option (List β × Nat)
  | budget, [] => some ([], budget)
  | budget, a :: as =>
    (f budget a).bind fun (b, budget) => (spend f budget as).map fun (bs, budget) => (b :: bs, budget)

/-- Applies a step that uses up a budget to both sides of a pair. -/
def spendPair {α β : Type} (f : Nat → α → Option (β × Nat)) (budget : Nat) (p : α × α) :
    Option ((β × β) × Nat) :=
  (f budget p.1).bind fun (k, budget) => (f budget p.2).map fun (v, budget) => ((k, v), budget)

/-- The node that stands in a place: aliases are followed, names dropped.  Following one costs one of
the budget. -/
def settle (table : List (Nat × Node)) : Nat → Node → Option (Node × Nat)
  | 0, .alias _ => none
  | budget + 1, .alias number =>
    match table.lookup number with
    | some (.anchored _ _) => none
    | some (.alias _) => none
    | some n => some (n, budget)
    | none => none
  | budget, .anchored _ n => some (n, budget)
  | budget, n => some (n, budget)

/-- Puts the named nodes in the places of their aliases, down to a depth. -/
def expand (table : List (Nat × Node)) : Nat → Nat → Node → Option (Node × Nat)
  | depth, budget, n =>
    match settle table budget n with
    | none => none
    | some (n, budget) =>
      match n, depth with
      | .seq tag items, depth + 1 =>
        (spend (expand table depth) budget items).map fun (ns, budget) => (.seq tag ns, budget)
      | .map tag pairs, depth + 1 =>
        (spend (spendPair (expand table depth)) budget pairs).map fun (ps, budget) =>
          (.map tag ps, budget)
      | .seq _ _, 0 => none
      | .map _ _, 0 => none
      | n, _ => some (n, budget)

/-- How deep lists and mappings may be nested. -/
def maxDepth : Nat := 128

/-- The tree with every alias **resolved**. -/
def resolve? (n : Node) : Option Node :=
  (expand n.named.reverse maxDepth (100 * n.steps) n).map (·.1)

/-- Reads a text that holds at most one document, aliases resolved. -/
def readText? (text : String) : Option Node :=
  match ofText? text with
  | none => none
  | some none => some empty
  | some (some n) => n.resolve?

end Node

end Scaffold.Yaml
