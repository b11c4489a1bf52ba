import Scaffold.Proofs.Path.Components
import Scaffold.Node.Tree

/-!
# Proofs/Node/TreeMap — trees as maps

Trees are **equal as maps** if they have the same paths, and equal entries under each, in whatever
order (`Tree.SameMap`).  Trees put one behind the other are looked up one after the other
(`get?_append`), so equal ones behind equal ones are equal (`SameMap.append`), and two without a path
in common may be put in either order (`SameMap.append_comm`).
-/

namespace Scaffold.Tree

mutual

/-- Trees **equal as maps**: they have the same paths, and equal entries under each. -/
inductive SameMap : List (Path × Rendered) → List (Path × Rendered) → Prop where
  | of {t u : List (Path × Rendered)} (paths : ∀ p, (get? t p).isSome = (get? u p).isSome)
      (entries : ∀ p x y, get? t p = some x → get? u p = some y → SameRendered x y) : SameMap t u

/-- **Equal** entries: one content, or trees that are equal as maps. -/
inductive SameRendered : Rendered → Rendered → Prop where
  | file (content : Content) : SameRendered (.file content) (.file content)
  | folder {t u : List (Path × Rendered)} (h : SameMap t u) : SameRendered (.folder t) (.folder u)

end

variable {t u t' u' : Tree} {p q : Path} {x y : Rendered}

/-! ## An equivalence -/

mutual

theorem SameRendered.refl : ∀ x : Rendered, SameRendered x x
  | .file content => .file content
  | .folder t => .folder (.of (fun _ => rfl) fun p x y hx hy => by
      obtain rfl : x = y := Option.some.inj (hx.symm.trans hy)
      exact sameRendered_of_get? t p x hx)

/-- Every entry of a tree is equal to itself. -/
theorem sameRendered_of_get? : ∀ (t : List (Path × Rendered)) (p : Path) (x : Rendered),
    get? t p = some x → SameRendered x x
  | (q, y) :: t, p, x, h => by
    rw [get?] at h
    split at h
    · obtain rfl := Option.some.inj h
      exact SameRendered.refl y
    · exact sameRendered_of_get? t p x h

end

theorem SameMap.refl (t : Tree) : SameMap t t :=
  .of (fun _ => rfl) fun p x y hx hy => by
    obtain rfl : x = y := Option.some.inj (hx.symm.trans hy)
    exact SameRendered.refl x

mutual

theorem SameMap.trans {t u w : List (Path × Rendered)} : SameMap t u → SameMap u w → SameMap t w
  | .of paths entries, h' => by
    cases h' with
    | of paths' entries' =>
      refine .of (fun p => (paths p).trans (paths' p)) fun p x z hx hz => ?_
      obtain ⟨y, hy⟩ := Option.isSome_iff_exists.mp (by rw [← paths p, hx]; rfl)
      exact SameRendered.trans (entries p x y hx hy) (entries' p y z hy hz)

theorem SameRendered.trans {x y z : Rendered} : SameRendered x y → SameRendered y z →
    SameRendered x z
  | .file _, h' => h'
  | .folder h, h' => by
    cases h' with
    | folder hrest => exact .folder (SameMap.trans h hrest)

end

/-! ## One behind the other -/

/-- Trees put **one behind the other** are looked up one after the other. -/
theorem get?_append : ∀ (t u : Tree) (p : Path), get? (t ++ u) p = (get? t p).or (get? u p)
  | [], _, _ => rfl
  | (q, x) :: t, u, p => by
    rw [List.cons_append, get?, get?]
    split
    · rfl
    · exact get?_append t u p

/-- A tree with one entry holds it at **one path**. -/
theorem get?_singleton (q : Path) (x : Rendered) (p : Path) :
    get? [(q, x)] p = if q.sameAs p then some x else none := rfl

/-- Trees equal as maps, put behind trees equal as maps, are **equal as maps**. -/
theorem SameMap.append (h : SameMap t u) (h' : SameMap t' u') : SameMap (t ++ t') (u ++ u') := by
  obtain ⟨paths, entries⟩ := h
  obtain ⟨paths', entries'⟩ := h'
  refine .of (fun p => ?_) fun p x y hx hy => ?_
  · rw [get?_append, get?_append, Option.isSome_or, Option.isSome_or, paths, paths']
  · rw [get?_append] at hx hy
    have hpath := paths p
    rcases hfirst : get? t p with _ | a <;> rcases hfirst' : get? u p with _ | b <;>
      rw [hfirst, hfirst'] at hpath
    · rw [hfirst, Option.none_or] at hx
      rw [hfirst', Option.none_or] at hy
      exact entries' p x y hx hy
    · simp at hpath
    · simp at hpath
    · rw [hfirst, Option.some_or, Option.some.injEq] at hx
      rw [hfirst', Option.some_or, Option.some.injEq] at hy
      exact entries p x y (hx ▸ hfirst) (hy ▸ hfirst')

/-- Trees **without a path in common** may be put in either order. -/
theorem SameMap.append_comm (h : ∀ p, get? t p = none ∨ get? u p = none) :
    SameMap (t ++ u) (u ++ t) := by
  have hsame : ∀ p, get? (t ++ u) p = get? (u ++ t) p := fun p => by
    rw [get?_append, get?_append]
    rcases h p with hnone | hnone
    · rw [hnone, Option.none_or, Option.or_none]
    · rw [hnone, Option.none_or, Option.or_none]
  refine .of (fun p => by rw [hsame]) fun p x y hx hy => ?_
  rw [hsame, hy] at hx
  obtain rfl := Option.some.inj hx
  exact SameRendered.refl y

/-- Equal entries at one path are equal **as maps**. -/
theorem SameRendered.singleton (h : SameRendered x y) (q : Path) : SameMap [(q, x)] [(q, y)] := by
  refine .of (fun p => ?_) fun p a b ha hb => ?_
  · rw [get?_singleton, get?_singleton]
    split <;> rfl
  · rw [get?_singleton] at ha hb
    split at ha
    · next hp =>
      rw [if_pos hp, Option.some.injEq] at hb
      rw [← Option.some.inj ha, ← hb]
      exact h
    · simp at ha

/-- An entry at a **new path** is added at the end. -/
theorem insert_of_get?_eq_none : ∀ {t : Tree}, get? t p = none → insert t p x = t ++ [(p, x)]
  | [], _ => rfl
  | (q, y) :: t, h => by
    rw [get?] at h
    split at h
    · simp at h
    · next hq => rw [insert, if_neg hq, insert_of_get?_eq_none h, List.cons_append]

end Scaffold.Tree
