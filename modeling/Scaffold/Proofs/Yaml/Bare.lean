import Mathlib.Data.List.Forall2
import Scaffold.Proofs.Yaml.Equality
import Scaffold.Yaml.Decode
import Scaffold.Yaml.Writer

/-!
# Proofs/Yaml/Bare — nodes without tags and names

A node is **bare** if nothing in it has a tag or a name (`Node.isBare`): all that tells what it means is
how it is spelled.  So a bare node that means a text, a list or a mapping is one (`Node.exists_of_str`,
`Node.exists_of_seq`, `Node.exists_of_map`), and what a reader expects of it can be told from its value
alone: a list of texts is read as these texts (`Node.texts?_of_seq`), and a record as its fields
(`Node.exists_members?_of_record`).
-/

namespace Scaffold.Yaml

/-! ## What a text may mean -/

/-- A text without a tag means **itself**, or nothing, or a truth value or a number. -/
theorem Value.ofText?_cases {plain : Bool} {s : String} {v : Value} (h : ofText? plain s = some v) :
    v = .str s ∨ (v = .null ∧ Node.isNull none plain s = true) ∨ (∃ b, v = .bool b) ∨
      ∃ n, v = .num n := by
  rw [ofText?] at h
  split at h
  · next hplain =>
    subst hplain
    rw [ofPlain?] at h
    split at h
    · next hnull => exact Or.inr (Or.inl ⟨(Option.some.inj h).symm, hnull⟩)
    · split at h
      · exact Or.inr (Or.inr (Or.inl ⟨_, (Option.some.inj h).symm⟩))
      · simp at h
      · exact Or.inr (Or.inr (Or.inr ⟨_, (Option.some.inj h).symm⟩))
      · split at h
        · exact Or.inl (Option.some.inj h).symm
        · split at h
          · exact Or.inr (Or.inr (Or.inr ⟨_, (Option.some.inj h).symm⟩))
          · exact Or.inl (Option.some.inj h).symm
  · exact Or.inl (Option.some.inj h).symm

namespace Node

/-! ## Bare nodes -/

mutual

/-- Whether a node is **bare**: there are no tags, names and aliases in it. -/
def isBare : Node → Bool
  | .scalar tag _ _ => tag.isNone
  | .seq tag items => tag.isNone && areBare items
  | .map tag pairs => tag.isNone && pairsBare pairs
  | .alias _ => false
  | .anchored _ _ => false

/-- Whether all items are bare. -/
def areBare : List Node → Bool
  | [] => true
  | n :: ns => isBare n && areBare ns

/-- Whether all keys and values are bare. -/
def pairsBare : List (Node × Node) → Bool
  | [] => true
  | (k, v) :: ps => isBare k && isBare v && pairsBare ps

end

variable {n : Node} {s : String} {v : Value}

/-- A bare node is a **text**, a list or a mapping. -/
theorem isBare_cases : ∀ {n : Node}, n.isBare = true → (∃ plain s, n = .scalar none plain s) ∨
    (∃ items, n = .seq none items ∧ areBare items = true) ∨
      ∃ pairs, n = .map none pairs ∧ pairsBare pairs = true
  | .scalar tag plain s, h => by
    obtain rfl := Option.isNone_iff_eq_none.mp h
    exact Or.inl ⟨plain, s, rfl⟩
  | .seq tag items, h => by
    obtain ⟨htag, hitems⟩ := Bool.and_eq_true_iff.mp h
    obtain rfl := Option.isNone_iff_eq_none.mp htag
    exact Or.inr (Or.inl ⟨items, rfl, hitems⟩)
  | .map tag pairs, h => by
    obtain ⟨htag, hpairs⟩ := Bool.and_eq_true_iff.mp h
    obtain rfl := Option.isNone_iff_eq_none.mp htag
    exact Or.inr (Or.inr ⟨pairs, rfl, hpairs⟩)
  | .alias _, h => absurd h Bool.false_ne_true
  | .anchored _ _, h => absurd h Bool.false_ne_true

/-- Nothing is put before a value **without a tag**. -/
theorem withTag_none (v : Value) : Value.withTag none v = some v := rfl

/-- A list without a tag means **the list** of what its items mean. -/
theorem ofNode?_seq {items : List Node} : Value.ofNode? (.seq none items) = some v ↔
    ∃ vs, Value.ofItems? items = some vs ∧ v = .seq vs := by
  rw [Value.ofNode?]
  cases Value.ofItems? items with
  | none => simp
  | some vs => simp only [withTag_none, Option.some.injEq, exists_eq_left', @eq_comm _ v]

/-- A mapping without a tag means **the mapping** of what its pairs mean, unless a key comes twice. -/
theorem ofNode?_map {pairs : List (Node × Node)} : Value.ofNode? (.map none pairs) = some v ↔
    ∃ ps, Value.ofPairs? pairs = some ps ∧ Value.repeats ps = false ∧ v = .map ps := by
  rw [Value.ofNode?]
  cases Value.ofPairs? pairs with
  | none => simp
  | some ps =>
    simp only [withTag_none, Option.some.injEq, exists_eq_left', @eq_comm _ v]
    cases Value.repeats ps <;> simp

/-- **A bare node that means a text** spells it. -/
theorem exists_of_str (hbare : n.isBare = true) (h : Value.ofNode? n = some (.str s)) :
    ∃ plain, n = .scalar none plain s ∧ Value.ofScalar? none plain s = some (.str s) := by
  rcases isBare_cases hbare with ⟨plain, t, rfl⟩ | ⟨items, rfl, -⟩ | ⟨pairs, rfl, -⟩
  · rcases Value.ofText?_cases h with heq | ⟨heq, -⟩ | ⟨b, heq⟩ | ⟨x, heq⟩
    · obtain rfl := Value.str.inj heq
      exact ⟨plain, rfl, h⟩
    · simp at heq
    · simp at heq
    · simp at heq
  · obtain ⟨vs, -, heq⟩ := ofNode?_seq.mp h
    simp at heq
  · obtain ⟨ps, -, -, heq⟩ := ofNode?_map.mp h
    simp at heq

/-- **A bare node that means nothing** is a plain text that does. -/
theorem exists_of_null (hbare : n.isBare = true) (h : Value.ofNode? n = some .null) :
    ∃ plain s, n = .scalar none plain s ∧ isNull none plain s = true := by
  rcases isBare_cases hbare with ⟨plain, t, rfl⟩ | ⟨items, rfl, -⟩ | ⟨pairs, rfl, -⟩
  · rcases Value.ofText?_cases h with heq | ⟨-, hnull⟩ | ⟨b, heq⟩ | ⟨x, heq⟩
    · simp at heq
    · exact ⟨plain, t, rfl, hnull⟩
    · simp at heq
    · simp at heq
  · obtain ⟨vs, -, heq⟩ := ofNode?_seq.mp h
    simp at heq
  · obtain ⟨ps, -, -, heq⟩ := ofNode?_map.mp h
    simp at heq

/-- **A bare node that means a list** is one, of bare items. -/
theorem exists_of_seq {vs : List Value} (hbare : n.isBare = true)
    (h : Value.ofNode? n = some (.seq vs)) :
    ∃ items, n = .seq none items ∧ areBare items = true ∧ Value.ofItems? items = some vs := by
  rcases isBare_cases hbare with ⟨plain, t, rfl⟩ | ⟨items, rfl, hitems⟩ | ⟨pairs, rfl, -⟩
  · rcases Value.ofText?_cases h with heq | ⟨heq, -⟩ | ⟨b, heq⟩ | ⟨x, heq⟩ <;> simp at heq
  · obtain ⟨ws, hws, heq⟩ := ofNode?_seq.mp h
    obtain rfl := Value.seq.inj heq
    exact ⟨items, rfl, hitems, hws⟩
  · obtain ⟨ps, -, -, heq⟩ := ofNode?_map.mp h
    simp at heq

/-- **A bare node that means a mapping** is one, of bare pairs, and has each key once. -/
theorem exists_of_map {ps : List (Value × Value)} (hbare : n.isBare = true)
    (h : Value.ofNode? n = some (.map ps)) : ∃ pairs, n = .map none pairs ∧
      pairsBare pairs = true ∧ Value.ofPairs? pairs = some ps ∧ Value.repeats ps = false := by
  rcases isBare_cases hbare with ⟨plain, t, rfl⟩ | ⟨items, rfl, -⟩ | ⟨pairs, rfl, hpairs⟩
  · rcases Value.ofText?_cases h with heq | ⟨heq, -⟩ | ⟨b, heq⟩ | ⟨x, heq⟩ <;> simp at heq
  · obtain ⟨vs, -, heq⟩ := ofNode?_seq.mp h
    simp at heq
  · obtain ⟨qs, hqs, hrepeats, heq⟩ := ofNode?_map.mp h
    obtain rfl := Value.map.inj heq
    exact ⟨pairs, rfl, hpairs, hqs, hrepeats⟩

/-! ## Items and pairs one by one -/

/-- Items have values if **the first has one** and the others have. -/
theorem ofItems?_cons {ns : List Node} {vs : List Value} :
    Value.ofItems? (n :: ns) = some vs ↔
      ∃ w ws, Value.ofNode? n = some w ∧ Value.ofItems? ns = some ws ∧ vs = w :: ws := by
  rw [Value.ofItems?]
  cases Value.ofNode? n <;> cases Value.ofItems? ns <;> simp [eq_comm]

/-- Pairs have values if **the first has one** and the others have. -/
theorem ofPairs?_cons {k m : Node} {ps : List (Node × Node)} {qs : List (Value × Value)} :
    Value.ofPairs? ((k, m) :: ps) = some qs ↔ ∃ x y rest, Value.ofNode? k = some x ∧
      Value.ofNode? m = some y ∧ Value.ofPairs? ps = some rest ∧ qs = (x, y) :: rest := by
  rw [Value.ofPairs?]
  cases Value.ofNode? k <;> cases Value.ofNode? m <;> cases Value.ofPairs? ps <;> simp [eq_comm]

/-! ## Reading by the value -/

/-- A bare node that means a text is **read as the text**. -/
theorem text?_of_str (hbare : n.isBare = true) (h : Value.ofNode? n = some (.str s)) :
    n.text? = some s := by
  obtain ⟨plain, rfl, -⟩ := exists_of_str hbare h
  rfl

/-- Bare items that mean texts are **read as the texts**. -/
theorem mapM_text?_of_strs : ∀ {ns : List Node} {ss : List String}, areBare ns = true →
    Value.ofItems? ns = some (ss.map .str) → ns.mapM text? = some ss
  | [], [], _, _ => rfl
  | [], s :: ss, _, h => by simp [Value.ofItems?] at h
  | n :: ns, ss, hbare, h => by
    obtain ⟨hn, hns⟩ := Bool.and_eq_true_iff.mp hbare
    obtain ⟨w, ws, hw, hws, heq⟩ := ofItems?_cons.mp h
    cases ss with
    | nil => simp at heq
    | cons s ss =>
      obtain ⟨rfl, rfl⟩ := List.cons.inj heq
      rw [List.mapM_cons, text?_of_str hn hw, mapM_text?_of_strs hns hws]
      rfl

/-- **A list of texts** is read as these texts. -/
theorem texts?_of_seq {ss : List String} (hbare : n.isBare = true)
    (h : Value.ofNode? n = some (.seq (ss.map .str))) : n.texts? = some ss := by
  obtain ⟨items, rfl, hitems, hvalues⟩ := exists_of_seq hbare h
  exact mapM_text?_of_strs hitems hvalues

/-- The node of a field **stands for it**: it is bare, and means the value of the field. -/
structure StandsFor (m : String × Node) (f : String × Value) : Prop where
  name : m.1 = f.1
  bare : m.2.isBare = true
  value : Value.ofNode? m.2 = some f.2

/-- Bare pairs that mean fields are **read as members** that stand for them. -/
theorem exists_members_of_record : ∀ {ps : List (Node × Node)} {fields : List (String × Value)},
    pairsBare ps = true → Value.ofPairs? ps = some (fields.map fun f => (.str f.1, f.2)) →
      ∃ ms, ps.mapM (fun p => p.1.text?.map fun k => (k, p.2)) = some ms ∧
        List.Forall₂ StandsFor ms fields
  | [], [], _, _ => ⟨[], rfl, .nil⟩
  | [], f :: fields, _, h => by simp [Value.ofPairs?] at h
  | (k, m) :: ps, fields, hbare, h => by
    obtain ⟨hkm, hps⟩ := Bool.and_eq_true_iff.mp hbare
    obtain ⟨hk, hm⟩ := Bool.and_eq_true_iff.mp hkm
    obtain ⟨x, y, rest, hx, hy, hrest, heq⟩ := ofPairs?_cons.mp h
    cases fields with
    | nil => simp at heq
    | cons f fields =>
      obtain ⟨hfirst, rfl⟩ := List.cons.inj heq
      obtain ⟨rfl, rfl⟩ := Prod.mk.inj hfirst
      obtain ⟨ms, hms, hall⟩ := exists_members_of_record hps hrest
      refine ⟨(f.1, m) :: ms, ?_, .cons ⟨rfl, hm, hy⟩ hall⟩
      rw [List.mapM_cons, text?_of_str hk hx, hms]
      rfl

/-- **A bare record** has a member for each field, in order, and no others. -/
theorem exists_members?_of_record {fields : List (String × Value)} (hbare : n.isBare = true)
    (h : Value.ofNode? n = some (.record fields)) :
    ∃ ms, n.members? = some ms ∧ List.Forall₂ StandsFor ms fields := by
  obtain ⟨pairs, rfl, hpairs, hvalues, -⟩ := exists_of_map hbare h
  exact exists_members_of_record hpairs hvalues

end Node

/-! ## Reading what is written -/

/-- Whether the text of a value is **read back**: as a bare node that means the value. -/
def Value.isReadBack (v : Value) : Bool :=
  (Node.readText? v.text).any fun n => n.isBare && (ofNode? n).any (same v)

/-- A text that is read back is read as **a bare node** that means the value. -/
theorem Value.isReadBack_iff {v : Value} : v.isReadBack = true ↔
    ∃ n, Node.readText? v.text = some n ∧ n.isBare = true ∧ ofNode? n = some v := by
  simp only [isReadBack, Option.any_eq_true, Bool.and_eq_true, same_iff, exists_eq_right']

end Scaffold.Yaml
