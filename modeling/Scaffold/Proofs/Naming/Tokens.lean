import Scaffold.Naming.Pattern
import Scaffold.Proofs.Naming.Parts

/-!
# Proofs/Naming/Tokens — where names are cut

Whatever the delimiters are, be they long, one the start of another, or made of characters that mean
something in a pattern, the pattern for them reads as the delimiters in order (`alternatives?_pattern`).
A name is cut at the leftmost place where one of them stands, there at the first of them that does, and
what is behind is cut again (`exists_parted_cut`).  So the parts and the delimiters between them make up
the name, and no part holds a delimiter (`parts_tokens`).
-/

namespace Scaffold.Naming

/-! ## The pattern -/

/-- A character that is written with a backslash **stands for itself**. -/
theorem alternatives?_backslash {c : Char} (h : c ∈ escapedMarks) (cs : List Char) :
    alternatives? ('\\' :: c :: cs) = (alternatives? cs).map (consFirst c) := by
  rw [alternatives?, if_pos (List.contains_iff_mem.mpr h)]

/-- Every operator is **written with a backslash**. -/
theorem operators_subset : operators ⊆ escapedMarks := by decide

/-- A character that needs no backslash **stands for itself**. -/
theorem alternatives?_cons {c : Char} (h : c ∉ escapedMarks) (cs : List Char) :
    alternatives? (c :: cs) = (alternatives? cs).map (consFirst c) := by
  have hbar : c ≠ '|' := fun heq => h (heq ▸ by decide)
  have hback : c ≠ '\\' := fun heq => h (heq ▸ by decide)
  have hoperator : c ∉ operators := fun hmem => h (operators_subset hmem)
  rw [alternatives?, if_neg (by simp [hback, hoperator])]
  · exact hbar
  · exact fun _ _ heq => absurd heq hback

/-- In front of a pattern, an **escaped text** is the start of the first alternative. -/
theorem alternatives?_escaped {more p : List Char} {ps : List (List Char)}
    (h : alternatives? more = some (p :: ps)) : ∀ text : List Char,
      alternatives? (escaped text ++ more) = some ((text ++ p) :: ps)
  | [] => h
  | c :: text => by
    have ih := alternatives?_escaped h text
    by_cases hc : c ∈ escapedMarks
    · have hshape : escaped (c :: text) ++ more = '\\' :: c :: (escaped text ++ more) := by
        rw [escaped, List.flatMap_cons, if_pos (List.contains_iff_mem.mpr hc)]
        rfl
      rw [hshape, alternatives?_backslash hc, ih]
      rfl
    · have hshape : escaped (c :: text) ++ more = c :: (escaped text ++ more) := by
        rw [escaped, List.flatMap_cons, if_neg (mt List.contains_iff_mem.mp hc)]
        rfl
      rw [hshape, alternatives?_cons hc, ih]
      rfl

/-- **The pattern** reads as the texts it was made of. -/
theorem alternatives?_joinWith : ∀ {texts : List (List Char)}, texts ≠ [] →
    alternatives? (Text.joinWith ['|'] (texts.map escaped)) = some texts
  | [text], _ => by
    have hnil : alternatives? [] = some [[]] := rfl
    have h := alternatives?_escaped hnil text
    rwa [List.append_nil, List.append_nil] at h
  | text :: next :: texts, _ => by
    have hrest := alternatives?_joinWith (List.cons_ne_nil next texts)
    have hbar : alternatives? ('|' :: Text.joinWith ['|'] ((next :: texts).map escaped)) =
        some ([] :: next :: texts) := by
      rw [alternatives?, hrest]
      rfl
    have h := alternatives?_escaped hbar text
    rw [List.append_nil] at h
    rw [← h, List.map_cons, List.map_cons, Text.joinWith, List.append_assoc]
    rfl

/-! ## Cutting -/

variable {ds parts marks : List (List Char)} {text before d p : List Char} {c : Char}

/-- Parts with the delimiters **between them**. -/
def woven : List (List Char) → List (List Char) → List Char
  | [], _ => []
  | p :: _, [] => p
  | p :: ps, d :: ds => p ++ d ++ woven ps ds

/-- **The first cut** of a text: a delimiter stands behind the part, no delimiter stands further left, and
none that comes earlier among the delimiters stands there too. -/
structure FirstCut (ds : List (List Char)) (text before d : List Char) : Prop where
  stands : before ++ d <+: text
  leftmost : ∀ k < before.length, ∀ e ∈ ds, ¬e <+: text.drop k
  first : ∃ earlier later, ds = earlier ++ d :: later ∧
    ∀ e ∈ earlier, ¬e <+: text.drop before.length

/-- The **parts** of a text and the delimiters between them, from left to right. -/
inductive Parted (ds : List (List Char)) : List Char → List (List Char) → List (List Char) → Prop
  | whole {text : List Char} (h : ∀ d ∈ ds, ¬d <:+: text) : Parted ds text [text] []
  | cut {before d rest : List Char} {parts marks : List (List Char)}
      (h : FirstCut ds (before ++ d ++ rest) before d) (hrest : Parted ds rest parts marks) :
      Parted ds (before ++ d ++ rest) (before :: parts) (d :: marks)

/-- The **first delimiter** a text starts with. -/
theorem firstCut_of_delimiterAt? (h : delimiterAt? ds text = some d) : FirstCut ds text [] d := by
  obtain ⟨hpre, earlier, later, hds, hearlier⟩ := List.find?_eq_some_iff_append.mp h
  refine ⟨List.isPrefixOf_iff_prefix.mp hpre, nofun, earlier, later, hds, fun e he hstart => ?_⟩
  have hpre : e.isPrefixOf text = true := List.isPrefixOf_iff_prefix.mpr hstart
  have hnot := hearlier e he
  rw [hpre] at hnot
  exact nomatch hnot

/-- A text starts with **no delimiter**. -/
theorem delimiterAt?_eq_none : delimiterAt? ds text = none ↔ ∀ d ∈ ds, ¬d <+: text := by
  simp [delimiterAt?]

/-- A character in front, where no delimiter stands, **goes into the part**. -/
theorem FirstCut.cons (h : FirstCut ds text before d) (hnone : ∀ e ∈ ds, ¬e <+: c :: text) :
    FirstCut ds (c :: text) (c :: before) d where
  stands := List.cons_prefix_cons.mpr ⟨rfl, h.stands⟩
  leftmost
    | 0, _ => hnone
    | k + 1, hk => h.leftmost k (Nat.lt_of_succ_lt_succ hk)
  first := h.first

/-- A character in front, where no delimiter stands, goes into the **first part**. -/
theorem Parted.cons (h : Parted ds text (p :: parts) marks) (hnone : ∀ e ∈ ds, ¬e <+: c :: text) :
    Parted ds (c :: text) ((c :: p) :: parts) marks := by
  cases h with
  | whole hwhole =>
    refine .whole fun e he hinfix => ?_
    rcases List.infix_cons_iff.mp hinfix with hstart | hlater
    · exact hnone e he hstart
    · exact hwhole e he hlater
  | @cut _ d rest _ marks hcut hrest =>
    exact @Parted.cut ds (c :: p) d rest parts marks (hcut.cons hnone) hrest

/-- There is always a **first part**. -/
theorem Parted.exists_cons (h : Parted ds text parts marks) : ∃ p ps, parts = p :: ps := by
  cases h with
  | whole _ => exact ⟨_, _, rfl⟩
  | cut _ _ => exact ⟨_, _, rfl⟩

/-- **Cutting parts a text** at the first cut, and the rest again. -/
theorem exists_parted_cut (hds : ∀ d ∈ ds, d ≠ []) : ∀ (skip : Nat) (cs : List Char),
    ∃ marks, Parted ds (cs.drop skip) (cut ds skip cs) marks
  | _, [] => by
    rw [cut, List.drop_nil]
    exact ⟨[], .whole fun d hd h => hds d hd (List.infix_nil.mp h)⟩
  | skip + 1, c :: cs => by
    rw [cut, List.drop_succ_cons]
    exact exists_parted_cut hds skip cs
  | 0, c :: cs => by
    rw [cut, List.drop_zero]
    cases hat : delimiterAt? ds (c :: cs) with
    | some d =>
      obtain ⟨marks, hrest⟩ := exists_parted_cut hds (d.length - 1) cs
      have hfirst := firstCut_of_delimiterAt? hat
      -- Of the delimiter, the first character is in front and the others are skipped.
      have htext : c :: cs = [] ++ d ++ cs.drop (d.length - 1) := by
        obtain ⟨e, d, rfl⟩ := List.exists_cons_of_ne_nil (hds d (List.mem_of_find?_eq_some hat))
        obtain ⟨more, hmore⟩ := hfirst.stands
        obtain ⟨rfl, rfl⟩ := List.cons.inj hmore
        simp
      rw [htext] at hfirst ⊢
      exact ⟨d :: marks, .cut hfirst hrest⟩
    | none =>
      obtain ⟨marks, hrest⟩ := exists_parted_cut hds 0 cs
      obtain ⟨p, ps, hparts⟩ := hrest.exists_cons
      rw [hparts, List.drop_zero] at hrest
      rw [hparts]
      exact ⟨marks, hrest.cons (delimiterAt?_eq_none.mp hat)⟩

namespace Parted

/-- Parts and delimiters **make up** the text. -/
theorem woven_eq (h : Parted ds text parts marks) : woven parts marks = text := by
  induction h with
  | whole _ => rfl
  | cut _ _ ih => rw [woven, ih]

/-- There is **one part more** than there are delimiters. -/
theorem length_eq (h : Parted ds text parts marks) : marks.length + 1 = parts.length := by
  induction h with
  | whole _ => rfl
  | cut _ _ ih => rw [List.length_cons, List.length_cons, ih]

/-- What stands between parts are **delimiters**. -/
theorem mem_of_mem (h : Parted ds text parts marks) : ∀ d ∈ marks, d ∈ ds := by
  induction h with
  | whole _ => exact fun _ hd => absurd hd List.not_mem_nil
  | cut hcut _ ih =>
    obtain ⟨earlier, later, hds, -⟩ := hcut.first
    exact List.forall_mem_cons.mpr ⟨hds ▸ by simp, ih⟩

/-- **No part** holds a delimiter. -/
theorem not_infix (hds : ∀ d ∈ ds, d ≠ []) (h : Parted ds text parts marks) :
    ∀ p ∈ parts, ∀ d ∈ ds, ¬d <:+: p := by
  induction h with
  | whole hwhole => exact List.forall_mem_singleton.mpr hwhole
  | @cut before d rest parts marks hcut _ ih =>
    refine List.forall_mem_cons.mpr ⟨fun e he hinfix => ?_, ih⟩
    -- A delimiter within the part would stand further left.
    obtain ⟨front, back, hbefore⟩ := hinfix
    have hlength := List.length_pos_iff.mpr (hds e he)
    refine hcut.leftmost front.length ?_ e he ?_
    · rw [← hbefore, List.length_append, List.length_append]
      omega
    · rw [← hbefore]
      simp [List.append_assoc]

/-- **Each delimiter** is the first cut of what is left of the text. -/
theorem firstCut (h : Parted ds text parts marks) : ∀ i p d, parts[i]? = some p → marks[i]? = some d →
    FirstCut ds (woven (parts.drop i) (marks.drop i)) p d := by
  induction h with
  | whole _ => exact fun _ _ _ _ hd => nomatch hd
  | cut hcut hrest ih =>
    rintro (_ | i) p d hp hd
    · obtain rfl := Option.some.inj hp
      obtain rfl := Option.some.inj hd
      rw [List.drop_zero, List.drop_zero, (Parted.cut hcut hrest).woven_eq]
      exact hcut
    · exact ih i p d hp hd

end Parted

/-! ## Names -/

section Rules

variable {n : Naming} {options : Option Grammar} {delimiters : List String} {separator : String}

/-- **The pattern of rules that are accepted** is nothing but their delimiters, as alternatives in order,
whatever characters they have. -/
theorem alternatives?_pattern (hof : of options delimiters separator = .ok n) :
    alternatives? n.pattern = some (n.delimiters.map String.toList) := by
  obtain ⟨-, rfl, hmem, -⟩ := of_eq_ok hof
  have hne : n.delimiters.map String.toList ≠ [] :=
    List.ne_nil_of_mem (List.mem_map_of_mem hmem)
  rw [pattern, ← alternatives?_joinWith hne, List.map_map]
  rfl

/-- **Names are cut without loss, and completely.**  The pattern of rules that are accepted reads as
their delimiters in order.  If they constrain names, the parts of a name and the delimiters between them
make up the name, no part holds a delimiter, and each of the delimiters is the first in order of those
that stand at the leftmost place, in what is left of the name, where any stands.  If they constrain
nothing, a name is its only part. -/
theorem parts_tokens (hof : of options delimiters separator = .ok n) (name : String) :
    alternatives? n.pattern = some (n.delimiters.map String.toList) ∧
    (∀ g, n.constraints? = some g → ∃ parts marks : List (List Char),
      n.parts name = parts.map String.ofList ∧
      marks.length + 1 = parts.length ∧
      (∀ d ∈ marks, d ∈ n.delimiters.map String.toList) ∧
      woven parts marks = name.toList ∧
      (∀ p ∈ parts, ∀ d ∈ n.delimiters.map String.toList, ¬d <:+: p) ∧
      ∀ i p d, parts[i]? = some p → marks[i]? = some d →
        FirstCut (n.delimiters.map String.toList) (woven (parts.drop i) (marks.drop i)) p d) ∧
    (n.constraints? = none → n.parts name = [name]) := by
  have hds : ∀ d ∈ n.delimiters.map String.toList, d ≠ [] := fun d hd hnil => by
    obtain ⟨s, hs, rfl⟩ := List.mem_map.mp hd
    exact (ne_empty_of_eq_ok hof).2 s hs (String.toList_eq_nil_iff.mp hnil)
  refine ⟨alternatives?_pattern hof, fun g hg => ?_, fun hnone => parts_of_unconstrained hnone name⟩
  obtain ⟨marks, h⟩ := exists_parted_cut hds 0 name.toList
  refine ⟨_, marks, ?_, h.length_eq, h.mem_of_mem, h.woven_eq, h.not_infix hds, h.firstCut⟩
  rw [parts, hg]

/-- Rules with delimiters that start with one another, and with such as mean something in a pattern. -/
def doubled : Naming :=
  { options := some [.word "x"], delimiters := [".", "..", "ab", "a", "|"], separator := "|" }

/-- The first of the delimiters is taken, not the longest: **two dots** are cut twice, `ab` once. -/
theorem parts_tokens_doubled :
    alternatives? doubled.pattern = some (doubled.delimiters.map String.toList) ∧
    doubled.parts "x..yab|z" = ["x", "", "y", "", "z"] ∧
    ∃ marks : List (List Char), marks.length = 4 ∧
      (∀ d ∈ marks, d ∈ doubled.delimiters.map String.toList) ∧
      woven (["x", "", "y", "", "z"].map String.toList) marks = "x..yab|z".toList := by
  have hof : of (some [.word "x"]) [".", "..", "ab", "a"] "|" = .ok doubled := rfl
  have hg : doubled.constraints? = some [.word "x"] := rfl
  have hparts : doubled.parts "x..yab|z" = ["x", "", "y", "", "z"] := by decide +kernel
  obtain ⟨hpattern, hcut, -⟩ := parts_tokens hof "x..yab|z"
  obtain ⟨parts, marks, heq, hlength, hmem, hwoven, -⟩ := hcut _ hg
  have hback : parts = ["x", "", "y", "", "z"].map String.toList := by
    rw [← hparts, heq]
    simp
  subst hback
  exact ⟨hpattern, hparts, marks, Nat.succ.inj hlength, hmem, hwoven⟩

end Rules

end Scaffold.Naming
