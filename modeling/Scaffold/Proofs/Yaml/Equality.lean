import Scaffold.Yaml.Value

/-!
# Proofs/Yaml/Equality — values of documents told apart

Repeated keys of a mapping are found by comparing values all the way down; that comparison is
equality (`Yaml.Value.same_iff`), which is so decided.
-/

namespace Scaffold.Yaml.Value

mutual

/-- Values are the same if they are **equal**, and only then. -/
theorem same_iff : ∀ {a b : Value}, same a b = true ↔ a = b
  | .null, b => by cases b <;> simp [same]
  | .bool _, b => by cases b <;> simp [same]
  | .num _, b => by cases b <;> simp [same]
  | .str _, b => by cases b <;> simp [same]
  | .seq xs, b => by cases b <;> simp [same, @sameItems_iff xs]
  | .map ps, b => by cases b <;> simp [same, @samePairs_iff ps]
  | .tagged s a, b => by cases b <;> simp [same, @same_iff a]

/-- The items of two lists are the same if the lists are equal. -/
theorem sameItems_iff : ∀ {xs ys : List Value}, sameItems xs ys = true ↔ xs = ys
  | [], ys => by cases ys <;> simp [sameItems]
  | x :: xs, ys => by cases ys <;> simp [sameItems, @same_iff x, @sameItems_iff xs]

/-- The pairs of two mappings are the same if the mappings are equal. -/
theorem samePairs_iff : ∀ {ps qs : List (Value × Value)}, samePairs ps qs = true ↔ ps = qs
  | [], qs => by cases qs <;> simp [samePairs]
  | (k, x) :: ps, qs => by
    cases qs with
    | nil => simp [samePairs]
    | cons q qs =>
      obtain ⟨l, y⟩ := q
      simp [samePairs, @same_iff k, @same_iff x, @samePairs_iff ps, and_assoc]

end

/-- Equality of values is **decided**. -/
instance : DecidableEq Value := fun _ _ => decidable_of_iff _ same_iff

end Scaffold.Yaml.Value
