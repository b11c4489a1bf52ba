import Scaffold.Text.Split
import Mathlib.Data.List.Basic

/-!
# Proofs/Text/Split — cutting a text and rejoining it

Cutting at a character gives pieces without that character (`not_mem_of_mem_splitChar`), and such
pieces come back from what they are joined to (`splitChar_joinWith`).  A separator in the middle of
a text cuts both sides apart (`splitChar_append_cons`), so cutting what was joined cuts each of the
pieces (`splitChar_joinWith_eq_flatMap`).  The first cut is the one that is made where a text is cut once
(`splitChar_of_splitOnce?`), and joining undoes cutting (`joinWith_splitChar`).  Cutting undoes joining only
where no string has the separator (`split_join`, `length_split_join`).
-/

namespace Scaffold.Text

variable {sep : Char}

/-- There is always a first piece. -/
theorem splitChar_ne_nil : ∀ cs : List Char, splitChar sep cs ≠ []
  | [] => by simp [splitChar]
  | c :: cs => by
    by_cases h : c = sep
    · simp [splitChar, h]
    · cases hs : splitChar sep cs with
      | nil => exact absurd hs (splitChar_ne_nil cs)
      | cons p ps => simp [splitChar, h, hs]

/-- A separator in front leaves an empty piece. -/
@[simp] theorem splitChar_cons_self (cs : List Char) :
    splitChar sep (sep :: cs) = [] :: splitChar sep cs := by simp [splitChar]

/-- Any other character joins the first piece. -/
theorem splitChar_cons_of_ne {c : Char} (h : c ≠ sep) {cs p : List Char} {ps : List (List Char)}
    (hs : splitChar sep cs = p :: ps) : splitChar sep (c :: cs) = (c :: p) :: ps := by
  simp [splitChar, h, hs]

/-- A text without the separator is one piece. -/
theorem splitChar_of_not_mem : ∀ {cs : List Char}, sep ∉ cs → splitChar sep cs = [cs]
  | [], _ => rfl
  | c :: cs, h => by
    rw [List.mem_cons, not_or] at h
    exact splitChar_cons_of_ne (Ne.symm h.1) (splitChar_of_not_mem h.2)

/-- No piece holds the separator. -/
theorem not_mem_of_mem_splitChar : ∀ {cs p : List Char}, p ∈ splitChar sep cs → sep ∉ p
  | [], p, h => by
    obtain rfl : p = [] := by simpa [splitChar] using h
    exact List.not_mem_nil
  | c :: cs, p, h => by
    by_cases hc : c = sep
    · rw [hc, splitChar_cons_self, List.mem_cons] at h
      rcases h with rfl | h
      · exact List.not_mem_nil
      · exact not_mem_of_mem_splitChar h
    · obtain ⟨q, qs, hs⟩ := List.exists_cons_of_ne_nil (@splitChar_ne_nil sep cs)
      rw [splitChar_cons_of_ne hc hs, List.mem_cons] at h
      have ih : ∀ x ∈ q :: qs, sep ∉ x := fun x hx => not_mem_of_mem_splitChar (hs ▸ hx)
      rcases h with rfl | h
      · rw [List.mem_cons, not_or]
        exact ⟨Ne.symm hc, ih q List.mem_cons_self⟩
      · exact ih p (List.mem_cons_of_mem _ h)

/-- All characters of a piece are characters of the **text**. -/
theorem mem_of_mem_splitChar : ∀ {cs p : List Char} {c : Char}, p ∈ splitChar sep cs → c ∈ p → c ∈ cs
  | [], p, c, hp, hc => by
    obtain rfl : p = [] := by simpa [splitChar] using hp
    exact hc
  | a :: cs, p, c, hp, hc => by
    by_cases ha : a = sep
    · rw [ha, splitChar_cons_self, List.mem_cons] at hp
      rcases hp with rfl | hp
      · exact absurd hc List.not_mem_nil
      · exact List.mem_cons_of_mem _ (mem_of_mem_splitChar hp hc)
    · obtain ⟨q, qs, hs⟩ := List.exists_cons_of_ne_nil (@splitChar_ne_nil sep cs)
      have ih : ∀ x ∈ q :: qs, ∀ b ∈ x, b ∈ cs := fun x hx b hb => mem_of_mem_splitChar (hs ▸ hx) hb
      rw [splitChar_cons_of_ne ha hs, List.mem_cons] at hp
      rcases hp with rfl | hp
      · exact (List.mem_cons.mp hc).elim (fun h => h ▸ List.mem_cons_self)
          fun h => List.mem_cons_of_mem _ (ih q List.mem_cons_self c h)
      · exact List.mem_cons_of_mem _ (ih p (List.mem_cons_of_mem _ hp) c hc)

/-- The first piece is empty at the start of a text, or before a separator. -/
theorem eq_nil_or_head_of_splitChar {cs : List Char} {ps : List (List Char)}
    (h : splitChar sep cs = [] :: ps) : cs = [] ∨ cs.head? = some sep := by
  cases cs with
  | nil => exact Or.inl rfl
  | cons c cs =>
    by_cases hc : c = sep
    · exact Or.inr (by rw [List.head?_cons, hc])
    · obtain ⟨q, qs, hs⟩ := List.exists_cons_of_ne_nil (@splitChar_ne_nil sep cs)
      rw [splitChar_cons_of_ne hc hs] at h
      simp at h

/-- The last piece is empty only of no text, or **behind a separator**. -/
theorem eq_nil_or_getLast_of_splitChar : ∀ {cs : List Char} {front : List (List Char)},
    splitChar sep cs = front ++ [[]] → cs = [] ∨ cs.getLast? = some sep
  | [], _, _ => Or.inl rfl
  | c :: cs, front, h => by
    right
    by_cases hc : c = sep
    · rw [hc, splitChar_cons_self] at h
      rcases List.cons_eq_append_iff.mp h with ⟨-, hrest⟩ | ⟨front', -, hrest⟩
      · exact absurd (List.cons.inj hrest).2.symm (splitChar_ne_nil cs)
      · rcases eq_nil_or_getLast_of_splitChar hrest with rfl | hlast
        · rw [hc, List.getLast?_singleton]
        · rw [List.getLast?_cons, hlast, Option.getD_some]
    · obtain ⟨p, ps, hs⟩ := List.exists_cons_of_ne_nil (@splitChar_ne_nil sep cs)
      rw [splitChar_cons_of_ne hc hs] at h
      rcases List.cons_eq_append_iff.mp h with ⟨-, hrest⟩ | ⟨front', -, hrest⟩
      · exact nomatch (List.cons.inj hrest).1
      · have hmore : splitChar sep cs = (p :: front') ++ [[]] := by rw [hs, hrest, List.cons_append]
        rcases eq_nil_or_getLast_of_splitChar hmore with rfl | hlast
        · simp [splitChar] at hmore
        · rw [List.getLast?_cons, hlast, Option.getD_some]

/-- **A separator cuts a text apart**: both sides are cut on their own. -/
theorem splitChar_append_cons : ∀ (as bs : List Char),
    splitChar sep (as ++ sep :: bs) = splitChar sep as ++ splitChar sep bs
  | [], bs => by simp [splitChar]
  | a :: as, bs => by
    by_cases h : a = sep
    · rw [h, List.cons_append, splitChar_cons_self, splitChar_cons_self, splitChar_append_cons,
        List.cons_append]
    · obtain ⟨p, ps, hs⟩ := List.exists_cons_of_ne_nil (@splitChar_ne_nil sep as)
      have hboth : splitChar sep (as ++ sep :: bs) = p :: (ps ++ splitChar sep bs) := by
        rw [splitChar_append_cons, hs, List.cons_append]
      rw [List.cons_append, splitChar_cons_of_ne h hboth, splitChar_cons_of_ne h hs,
        List.cons_append]

/-- **Cutting what was joined** cuts each of the pieces. -/
theorem splitChar_joinWith_eq_flatMap : ∀ {ps : List (List Char)}, ps ≠ [] →
    splitChar sep (joinWith [sep] ps) = ps.flatMap (splitChar sep)
  | [p], _ => by rw [joinWith, List.flatMap_singleton]
  | p :: q :: ps, _ => by
    have hrest : splitChar sep (joinWith [sep] (q :: ps)) = (q :: ps).flatMap (splitChar sep) :=
      splitChar_joinWith_eq_flatMap (List.cons_ne_nil q ps)
    rw [joinWith, List.append_assoc, List.singleton_append, splitChar_append_cons, hrest]
    rfl

/-- **Cutting undoes joining** where no piece holds the separator. -/
theorem splitChar_joinWith {ps : List (List Char)} (hps : ps ≠ []) (h : ∀ p ∈ ps, sep ∉ p) :
    splitChar sep (joinWith [sep] ps) = ps := by
  have hpieces : ps.map (splitChar sep) = ps.map fun p => [p] :=
    List.map_congr_left fun p hp => splitChar_of_not_mem (h p hp)
  rw [splitChar_joinWith_eq_flatMap hps, List.flatMap_def, hpieces, ← List.flatMap_def,
    List.flatMap_singleton']

/-- A text that cannot be cut **once** is one piece. -/
theorem splitChar_of_splitOnce?_eq_none : ∀ {cs : List Char}, splitOnce? sep cs = none →
    splitChar sep cs = [cs]
  | [], _ => rfl
  | c :: cs, h => by
    rw [splitOnce?] at h
    split at h
    · simp at h
    · next hc =>
      exact splitChar_cons_of_ne hc (splitChar_of_splitOnce?_eq_none (Option.map_eq_none_iff.mp h))

/-- **The first cut** is the one that is made where a text is cut once. -/
theorem splitChar_of_splitOnce? : ∀ {cs front back : List Char},
    splitOnce? sep cs = some (front, back) → splitChar sep cs = front :: splitChar sep back
  | [], _, _, h => nomatch h
  | c :: cs, front, back, h => by
    rw [splitOnce?] at h
    split at h
    · next hc =>
      obtain ⟨rfl, rfl⟩ := Prod.mk.inj (Option.some.inj h)
      rw [hc, splitChar_cons_self]
    · next hc =>
      obtain ⟨⟨_, _⟩, hrest, hpair⟩ := Option.map_eq_some_iff.mp h
      obtain ⟨rfl, rfl⟩ := Prod.mk.inj hpair
      exact splitChar_cons_of_ne hc (splitChar_of_splitOnce? hrest)

/-- **Joining undoes cutting**. -/
theorem joinWith_splitChar : ∀ cs : List Char, joinWith [sep] (splitChar sep cs) = cs
  | [] => rfl
  | c :: cs => by
    have ih := joinWith_splitChar cs
    obtain ⟨p, ps, hs⟩ := List.exists_cons_of_ne_nil (@splitChar_ne_nil sep cs)
    rw [hs] at ih
    by_cases hc : c = sep
    · rw [hc, splitChar_cons_self, hs, joinWith, ih]
      rfl
    · rw [splitChar_cons_of_ne hc hs]
      cases ps with
      | nil => exact congrArg (c :: ·) ih
      | cons q ps => exact congrArg (c :: ·) ih

/-- A string is cut into **at least one** string. -/
theorem split_ne_nil (s : String) : split sep s ≠ [] := by
  rw [split, Ne, List.map_eq_nil_iff]
  exact splitChar_ne_nil _

/-- Strings that a string was **cut into** are joined to it. -/
theorem join_split (s : String) : join (String.singleton sep) (split sep s) = s := by
  rw [join, split, List.map_map]
  have hback : (String.toList ∘ String.ofList) = id := funext fun _ => String.toList_ofList
  rw [hback, List.map_id, String.toList_singleton, joinWith_splitChar, String.ofList_toList]

/-- A text is one piece **exactly if** it is without the separator. -/
theorem length_splitChar_eq_one {cs : List Char} : (splitChar sep cs).length = 1 ↔ sep ∉ cs := by
  constructor
  · intro h
    obtain ⟨p, hp⟩ := List.length_eq_one_iff.mp h
    have hback : joinWith [sep] (splitChar sep cs) = cs := joinWith_splitChar cs
    rw [hp, joinWith] at hback
    exact not_mem_of_mem_splitChar (hback ▸ hp ▸ List.mem_cons_self)
  · intro h
    rw [splitChar_of_not_mem h, List.length_singleton]

/-- Cutting texts makes **at least as many** pieces, and as many only if nothing is cut. -/
theorem length_flatMap_splitChar : ∀ ps : List (List Char),
    ps.length ≤ (ps.flatMap (splitChar sep)).length ∧
      ((ps.flatMap (splitChar sep)).length = ps.length → ∀ p ∈ ps, sep ∉ p)
  | [] => ⟨Nat.le_refl _, fun _ => List.forall_mem_nil _⟩
  | p :: ps => by
    obtain ⟨hle, hall⟩ := length_flatMap_splitChar ps
    have hone : 0 < (splitChar sep p).length := List.length_pos_of_ne_nil (splitChar_ne_nil p)
    rw [List.flatMap_cons, List.length_append, List.length_cons]
    refine ⟨by omega, fun h => List.forall_mem_cons.mpr ⟨?_, hall (by omega)⟩⟩
    exact length_splitChar_eq_one.mp (by omega)

/-- **Strings come back** from what they are joined to, if none of them has the separator. -/
theorem split_join {ss : List String} (hss : ss ≠ []) (h : ∀ s ∈ ss, sep ∉ s.toList) :
    split sep (join (String.singleton sep) ss) = ss := by
  have hne : ss.map String.toList ≠ [] := by simpa using hss
  have hpieces : splitChar sep (joinWith [sep] (ss.map String.toList)) = ss.map String.toList :=
    splitChar_joinWith hne fun p hp => by
      obtain ⟨s, hs, rfl⟩ := List.mem_map.mp hp
      exact h s hs
  rw [split, join, String.toList_ofList, String.toList_singleton, hpieces, List.map_map]
  exact List.map_id'' (fun _ => String.ofList_toList) ss

/-- What strings are joined to is cut into **as many** exactly if none of them has the separator. -/
theorem length_split_join {ss : List String} (hss : ss ≠ []) :
    (split sep (join (String.singleton sep) ss)).length = ss.length ↔ ∀ s ∈ ss, sep ∉ s.toList := by
  constructor
  · intro h
    have hne : ss.map String.toList ≠ [] := by simpa using hss
    rw [split, join, String.toList_ofList, String.toList_singleton, List.length_map,
      splitChar_joinWith_eq_flatMap hne] at h
    have hall : ∀ p ∈ ss.map String.toList, sep ∉ p :=
      (length_flatMap_splitChar _).2 (by simpa using h)
    exact fun s hs => hall _ (List.mem_map_of_mem hs)
  · intro h
    rw [split_join hss h]

/-- Cut at a text, there is always a **first piece** too. -/
theorem splitRun_ne_nil (sep : List Char) : ∀ (skip : Nat) (cs : List Char), splitRun sep skip cs ≠ []
  | _, [] => by simp [splitRun]
  | skip + 1, c :: cs => splitRun_ne_nil sep skip cs
  | 0, c :: cs => by
    rw [splitRun]
    split
    · exact List.cons_ne_nil _ _
    · split <;> exact List.cons_ne_nil _ _

theorem splitText_ne_nil (sep cs : List Char) : splitText sep cs ≠ [] := by
  rw [splitText]
  split
  · simp
  · exact splitRun_ne_nil sep 0 cs

end Scaffold.Text
