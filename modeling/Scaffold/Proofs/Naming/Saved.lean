import Mathlib.Data.List.Nodup
import Scaffold.Naming.Document
import Scaffold.Proofs.Disk.Effect
import Scaffold.Proofs.Naming.Parts
import Scaffold.Proofs.Yaml.Bare
import Scaffold.Proofs.Yaml.Equality

/-!
# Proofs/Naming/Saved — naming rules that are saved and loaded

An entry of a grammar is told by the kind of its node alone: a text is a word, a mapping a branch, and
nothing that is written for one of them can be read as the other (`Segment.ofNode?_of_value`).  Words of
a branch come once, so putting them in one after the other keeps them in order (`Segment.ofPairs_eq`);
that they do is true of all rules that were read (`areDistinct_of_ofText`).  Rules that were accepted
have their separator among their delimiters and none of them empty, so they are accepted as they are
(`of_self`).  So the document of naming rules loads as the rules it was written from, if its text is read
as the value it was written from (`ofText_text`).
-/

namespace Scaffold

namespace Segment

open Yaml (Value)

/-! ## Words of a branch -/

/-- A word that is **new** is put at the end. -/
theorem putLevel_of_not_mem {w : String} {level : List Segment} :
    ∀ {ls : List (String × List Segment)}, w ∉ ls.map Prod.fst →
      putLevel ls w level = ls ++ [(w, level)]
  | [], _ => rfl
  | (k, old) :: ls, h => by
    rw [List.map_cons, List.mem_cons, not_or] at h
    rw [putLevel, if_neg (Ne.symm h.1), putLevel_of_not_mem h.2, List.cons_append]

/-- Words that are **new, and different**, are put at the end in turn. -/
theorem foldl_putLevel : ∀ {ls acc : List (String × List Segment)},
    ((acc ++ ls).map Prod.fst).Nodup →
      ls.foldl (fun acc l => putLevel acc l.1 l.2) acc = acc ++ ls
  | [], acc, _ => (List.append_nil acc).symm
  | l :: ls, acc, h => by
    have hnew : l.1 ∉ acc.map Prod.fst := by
      rw [List.map_append, List.nodup_append] at h
      exact fun hmem => h.2.2 _ hmem _ List.mem_cons_self rfl
    rw [List.foldl_cons, putLevel_of_not_mem hnew, foldl_putLevel, List.append_assoc,
      List.singleton_append]
    rwa [List.append_assoc, List.singleton_append]

/-- **Different words** are put in a branch as they are. -/
theorem ofPairs_eq {ls : List (String × List Segment)} (h : (ls.map Prod.fst).Nodup) :
    ofPairs ls = .branch ls := by
  have hfold := @foldl_putLevel ls [] h
  rw [ofPairs, hfold, List.nil_append]

/-- A word is **not among the keys** of the pairs for a branch exactly if it is none of its words. -/
theorem any_levelValues {w : String} : ∀ {ls : List (String × List Segment)},
    ((levelValues ls).any fun p => Value.same (.str w) p.1) = false ↔ w ∉ ls.map Prod.fst
  | [] => by simp [levelValues]
  | (k, level) :: ls => by
    have hsame : Value.same (.str w) (.str k) = false ↔ w ≠ k := by
      rw [← Bool.not_eq_true, Value.same_iff, Value.str.injEq]
    rw [levelValues, List.any_cons, Bool.or_eq_false_iff, any_levelValues, hsame, List.map_cons,
      List.mem_cons, not_or]

/-- The keys of the pairs for a branch come once exactly if its **words are different**. -/
theorem repeats_levelValues : ∀ {ls : List (String × List Segment)},
    Value.repeats (levelValues ls) = false ↔ (ls.map Prod.fst).Nodup
  | [] => by simp [levelValues, Value.repeats]
  | (w, level) :: ls => by
    rw [levelValues, Value.repeats, Bool.or_eq_false_iff, any_levelValues, repeats_levelValues,
      List.map_cons, List.nodup_cons]

/-! ## Reading what was written -/

mutual

/-- **An entry is read back** from every bare node that means what is written for it. -/
theorem ofNode?_of_value : ∀ {n : Yaml.Node} {s : Segment}, n.isBare = true →
    Value.ofNode? n = some s.toValue → ofNode? n = some s
  | n, .word w, hbare, h => by
    obtain ⟨plain, rfl, hword⟩ := Yaml.Node.exists_of_str hbare h
    rw [ofNode?, wordOf?, hword]
    rfl
  | n, .branch levels, hbare, h => by
    obtain ⟨pairs, rfl, hpairs, hvalues, hrepeats⟩ := Yaml.Node.exists_of_map hbare h
    rw [ofNode?, levelsOf?_of_values hpairs hvalues]
    exact congrArg some (ofPairs_eq (repeats_levelValues.mp hrepeats))

/-- The entries of a level are read back. -/
theorem ofItems?_of_values : ∀ {ns : List Yaml.Node} {ss : List Segment}, Yaml.Node.areBare ns = true →
    Value.ofItems? ns = some (toValues ss) → ofItems? ns = some ss
  | [], [], _, _ => rfl
  | [], s :: ss, _, h => by simp [Value.ofItems?, toValues] at h
  | n :: ns, [], _, h => by
    obtain ⟨w, ws, -, -, heq⟩ := Yaml.Node.ofItems?_cons.mp h
    simp [toValues] at heq
  | n :: ns, s :: ss, hbare, h => by
    obtain ⟨hn, hns⟩ := Bool.and_eq_true_iff.mp hbare
    obtain ⟨w, ws, hw, hws, heq⟩ := Yaml.Node.ofItems?_cons.mp h
    obtain ⟨rfl, rfl⟩ := List.cons.inj heq
    rw [ofItems?, ofNode?_of_value hn hw, ofItems?_of_values hns hws]

/-- The words of a branch are read back with their levels. -/
theorem levelsOf?_of_values : ∀ {ps : List (Yaml.Node × Yaml.Node)} {ls : List (String × List Segment)},
    Yaml.Node.pairsBare ps = true → Value.ofPairs? ps = some (levelValues ls) → levelsOf? ps = some ls
  | [], [], _, _ => rfl
  | [], l :: ls, _, h => by simp [Value.ofPairs?, levelValues] at h
  | (k, m) :: ps, [], _, h => by
    obtain ⟨x, y, rest, -, -, -, heq⟩ := Yaml.Node.ofPairs?_cons.mp h
    simp [levelValues] at heq
  | (k, m) :: ps, (w, level) :: ls, hbare, h => by
    obtain ⟨hkm, hps⟩ := Bool.and_eq_true_iff.mp hbare
    obtain ⟨hk, hm⟩ := Bool.and_eq_true_iff.mp hkm
    obtain ⟨x, y, rest, hx, hy, hrest, heq⟩ := Yaml.Node.ofPairs?_cons.mp h
    obtain ⟨hfirst, rfl⟩ := List.cons.inj heq
    obtain ⟨rfl, rfl⟩ := Prod.mk.inj hfirst
    obtain ⟨items, rfl, hitems, hvalues⟩ := Yaml.Node.exists_of_seq hm hy
    obtain ⟨plain, rfl, hword⟩ := Yaml.Node.exists_of_str hk hx
    rw [levelsOf?, ofItems?_of_values hitems hvalues, levelsOf?_of_values hps hrest, wordOf?, hword]
    rfl

end

/-! ## Writing what can be read -/

mutual

/-- Whether in every branch of an entry the words are **different**, at any depth. -/
def isDistinct : Segment → Bool
  | .word _ => true
  | .branch levels => decide (levels.map Prod.fst).Nodup && levelsDistinct levels

/-- Whether they are in all entries. -/
def areDistinct : List Segment → Bool
  | [] => true
  | s :: ss => isDistinct s && areDistinct ss

/-- Whether they are in all levels of a branch. -/
def levelsDistinct : List (String × List Segment) → Bool
  | [] => true
  | (_, level) :: ls => areDistinct level && levelsDistinct ls

end

/-- Setting the level under a word adds **no word twice**. -/
theorem nodup_putLevel {w : String} {level : List Segment} :
    ∀ {ls : List (String × List Segment)}, (ls.map Prod.fst).Nodup →
      ((putLevel ls w level).map Prod.fst).Nodup ∧
        ∀ k ∈ (putLevel ls w level).map Prod.fst, k = w ∨ k ∈ ls.map Prod.fst
  | [], _ => ⟨List.nodup_singleton w, fun k hk => Or.inl (List.mem_singleton.mp hk)⟩
  | (k, old) :: ls, h => by
    rw [putLevel]
    split
    · exact ⟨h, fun k hk => Or.inr hk⟩
    · next hne =>
      obtain ⟨hk, hls⟩ := List.nodup_cons.mp h
      obtain ⟨hnodup, hmem⟩ := nodup_putLevel hls
      rw [List.map_cons, List.nodup_cons, List.forall_mem_cons]
      refine ⟨⟨fun hthere => ?_, hnodup⟩, Or.inr List.mem_cons_self, fun x hx => ?_⟩
      · exact (hmem k hthere).elim hne hk
      · exact (hmem x hx).imp_right (List.mem_cons_of_mem _)

/-- Setting a level whose words are different keeps **all levels** so. -/
theorem levelsDistinct_putLevel {w : String} {level : List Segment}
    (hlevel : areDistinct level = true) : ∀ {ls : List (String × List Segment)},
      levelsDistinct ls = true → levelsDistinct (putLevel ls w level) = true
  | [], _ => Bool.and_eq_true_iff.mpr ⟨hlevel, rfl⟩
  | (k, old) :: ls, h => by
    obtain ⟨hold, hls⟩ := Bool.and_eq_true_iff.mp h
    rw [putLevel]
    split
    · exact Bool.and_eq_true_iff.mpr ⟨hlevel, hls⟩
    · exact Bool.and_eq_true_iff.mpr ⟨hold, levelsDistinct_putLevel hlevel hls⟩

/-- Setting levels **one after the other** leaves a branch with different words. -/
theorem isDistinct_foldl_putLevel {ls acc : List (String × List Segment)}
    (h : levelsDistinct ls = true) (hnodup : (acc.map Prod.fst).Nodup)
    (hacc : levelsDistinct acc = true) :
    (branch (ls.foldl (fun acc l => putLevel acc l.1 l.2) acc)).isDistinct = true := by
  induction ls generalizing acc with
  | nil => exact Bool.and_eq_true_iff.mpr ⟨decide_eq_true hnodup, hacc⟩
  | cons l ls ih =>
    obtain ⟨hl, hls⟩ := Bool.and_eq_true_iff.mp h
    exact ih hls (nodup_putLevel hnodup).1 (levelsDistinct_putLevel hl hacc)

/-- **A branch that is put together** pair by pair has different words. -/
theorem isDistinct_ofPairs {ls : List (String × List Segment)} (h : levelsDistinct ls = true) :
    (ofPairs ls).isDistinct = true := isDistinct_foldl_putLevel h List.nodup_nil rfl

mutual

/-- **Whatever is read as an entry** has different words in each branch. -/
theorem isDistinct_of_ofNode? : ∀ {n : Yaml.Node} {s : Segment}, ofNode? n = some s → s.isDistinct = true
  | .scalar tag plain t, s, h => by
    obtain ⟨w, -, rfl⟩ := Option.map_eq_some_iff.mp h
    rfl
  | .map tag pairs, s, h => by
    rw [ofNode?] at h
    split at h
    · simp at h
    · obtain ⟨ls, hls, rfl⟩ := Option.map_eq_some_iff.mp h
      exact isDistinct_ofPairs (levelsDistinct_of_levelsOf? hls)
  | .seq _ _, s, h => by simp [ofNode?] at h
  | .anchored _ n, s, h => by
    rw [ofNode?] at h
    exact isDistinct_of_ofNode? h
  | .alias _, s, h => by simp [ofNode?] at h

/-- Whatever is read as a level has different words in each branch. -/
theorem areDistinct_of_ofItems? : ∀ {ns : List Yaml.Node} {ss : List Segment}, ofItems? ns = some ss →
    areDistinct ss = true
  | [], ss, h => by
    obtain rfl := Option.some.inj h
    rfl
  | n :: ns, ss, h => by
    rw [ofItems?] at h
    split at h
    · next s rest hs hrest =>
      obtain rfl := Option.some.inj h
      exact Bool.and_eq_true_iff.mpr ⟨isDistinct_of_ofNode? hs, areDistinct_of_ofItems? hrest⟩
    · simp at h

/-- Whatever is read as the words of a branch has different words in each branch of their levels. -/
theorem levelsDistinct_of_levelsOf? : ∀ {ps : List (Yaml.Node × Yaml.Node)}
    {ls : List (String × List Segment)}, levelsOf? ps = some ls → levelsDistinct ls = true
  | [], ls, h => by
    obtain rfl := Option.some.inj h
    rfl
  | (k, .seq tag items) :: ps, ls, h => by
    rw [levelsOf?] at h
    split at h
    · simp at h
    · split at h
      · next w level rest hw hlevel hrest =>
        obtain rfl := Option.some.inj h
        exact Bool.and_eq_true_iff.mpr
          ⟨areDistinct_of_ofItems? hlevel, levelsDistinct_of_levelsOf? hrest⟩
      · simp at h
  | (k, .scalar _ _ _) :: ps, ls, h => by simp [levelsOf?] at h
  | (k, .map _ _) :: ps, ls, h => by simp [levelsOf?] at h
  | (k, .alias _) :: ps, ls, h => by simp [levelsOf?] at h
  | (k, .anchored _ _) :: ps, ls, h => by simp [levelsOf?] at h

end

mutual

/-- The **node** that spells an entry, with every text in quotes. -/
def toNode : Segment → Yaml.Node
  | .word w => .scalar none false w
  | .branch levels => .map none (levelNodes levels)

/-- The nodes that spell entries. -/
def toNodes : List Segment → List Yaml.Node
  | [] => []
  | s :: ss => toNode s :: toNodes ss

/-- The nodes that spell the words of a branch with their levels. -/
def levelNodes : List (String × List Segment) → List (Yaml.Node × Yaml.Node)
  | [] => []
  | (w, level) :: ls => (.scalar none false w, .seq none (toNodes level)) :: levelNodes ls

end

mutual

/-- The node that spells an entry is **bare**. -/
theorem isBare_toNode : ∀ s : Segment, s.toNode.isBare = true
  | .word _ => rfl
  | .branch levels => pairsBare_levelNodes levels

/-- The nodes that spell entries are bare. -/
theorem areBare_toNodes : ∀ ss : List Segment, Yaml.Node.areBare (toNodes ss) = true
  | [] => rfl
  | s :: ss => Bool.and_eq_true_iff.mpr ⟨isBare_toNode s, areBare_toNodes ss⟩

/-- The nodes that spell the words of a branch are bare. -/
theorem pairsBare_levelNodes : ∀ ls : List (String × List Segment),
    Yaml.Node.pairsBare (levelNodes ls) = true
  | [] => rfl
  | (_, level) :: ls => Bool.and_eq_true_iff.mpr ⟨areBare_toNodes level, pairsBare_levelNodes ls⟩

end

mutual

/-- **The node that spells an entry** means what is written for it, if no branch has a word twice. -/
theorem ofNode?_toNode : ∀ {s : Segment}, s.isDistinct = true →
    Value.ofNode? s.toNode = some s.toValue
  | .word _, _ => rfl
  | .branch levels, h => by
    obtain ⟨hwords, hlevels⟩ := Bool.and_eq_true_iff.mp h
    exact Yaml.Node.ofNode?_map.mpr ⟨_, ofPairs?_levelNodes hlevels,
      repeats_levelValues.mpr (of_decide_eq_true hwords), rfl⟩

/-- The nodes that spell entries mean what is written for them. -/
theorem ofItems?_toNodes : ∀ {ss : List Segment}, areDistinct ss = true →
    Value.ofItems? (toNodes ss) = some (toValues ss)
  | [], _ => rfl
  | s :: ss, h => by
    obtain ⟨hs, hss⟩ := Bool.and_eq_true_iff.mp h
    exact Yaml.Node.ofItems?_cons.mpr ⟨_, _, ofNode?_toNode hs, ofItems?_toNodes hss, rfl⟩

/-- The nodes that spell the words of a branch mean what is written for them. -/
theorem ofPairs?_levelNodes : ∀ {ls : List (String × List Segment)}, levelsDistinct ls = true →
    Value.ofPairs? (levelNodes ls) = some (levelValues ls)
  | [], _ => rfl
  | (w, level) :: ls, h => by
    obtain ⟨hlevel, hls⟩ := Bool.and_eq_true_iff.mp h
    exact Yaml.Node.ofPairs?_cons.mpr ⟨.str w, _, _, rfl,
      Yaml.Node.ofNode?_seq.mpr ⟨_, ofItems?_toNodes hlevel, rfl⟩, ofPairs?_levelNodes hls, rfl⟩

end

end Segment

namespace Naming

open Yaml (Value)

variable {n : Naming}

/-! ## Rules -/

/-- **A grammar is read back**, or that there is none. -/
theorem optional?_of_value {m : Yaml.Node} {options : Option Grammar} (hbare : m.isBare = true)
    (h : Value.ofNode? m =
      some ((options.map fun g => Value.seq (Segment.toValues g)).getD .null)) :
    Yaml.Node.optional? grammarOf? m = some options := by
  cases options with
  | none =>
    obtain ⟨plain, s, rfl, hnull⟩ := Yaml.Node.exists_of_null hbare h
    rw [Yaml.Node.optional?, if_pos hnull]
  | some g =>
    obtain ⟨items, rfl, hitems, hvalues⟩ := Yaml.Node.exists_of_seq hbare h
    have hread : grammarOf? (.seq none items) = some g := Segment.ofItems?_of_values hitems hvalues
    exact congrArg (Option.map some) hread

/-- **Rules are read back** from every bare node that means what is written for them. -/
theorem ofNode?_of_value {m : Yaml.Node} (hbare : m.isBare = true)
    (h : Value.ofNode? m = some n.toValue) :
    ofNode? m = some (n.options, n.delimiters, n.separator) := by
  obtain ⟨ms, hms, hall⟩ := Yaml.Node.exists_members?_of_record hbare h
  obtain ⟨⟨options, o⟩, ms, ho, hrest, rfl⟩ := List.forall₂_cons_right_iff.mp hall
  obtain ⟨⟨delimiters, d⟩, ms, hd, hlast, rfl⟩ := List.forall₂_cons_right_iff.mp hrest
  obtain ⟨⟨separator, s⟩, ms, hs, hnil, rfl⟩ := List.forall₂_cons_right_iff.mp hlast
  obtain rfl := List.forall₂_nil_right_iff.mp hnil
  obtain rfl : options = "options" := ho.name
  obtain rfl : delimiters = "delimiters" := hd.name
  obtain rfl : separator = "repo_separator" := hs.name
  have hoptions := optional?_of_value ho.bare ho.value
  have hdelimiters := Yaml.Node.texts?_of_seq hd.bare hd.value
  have hseparator := Yaml.Node.text?_of_str hs.bare hs.value
  have hfields : ∀ {α : Type} (read : Yaml.Node → Option α) (otherwise : α),
      Yaml.Node.fieldOr? [("options", o), ("delimiters", d), ("repo_separator", s)] "options" read
        otherwise = read o ∧
      Yaml.Node.fieldOr? [("options", o), ("delimiters", d), ("repo_separator", s)] "delimiters" read
        otherwise = read d ∧
      Yaml.Node.fieldOr? [("options", o), ("delimiters", d), ("repo_separator", s)] "repo_separator" read
        otherwise = read s := fun read otherwise => ⟨rfl, rfl, rfl⟩
  rw [ofNode?, hms]
  simp only [hfields, hoptions, hdelimiters, hseparator]

/-- A grammar that is read has **different words** in each branch. -/
theorem areDistinct_of_optional? {m : Yaml.Node} {g : Grammar}
    (h : Yaml.Node.optional? grammarOf? m = some (some g)) : Segment.areDistinct g = true := by
  have hread : grammarOf? m = some g := by
    unfold Yaml.Node.optional? at h
    split at h
    · split at h
      · simp at h
      · split at h
        · simp at h
        · simpa using h
    · simpa using h
  rw [grammarOf?, Option.bind_eq_some_iff] at hread
  obtain ⟨items, -, hitems⟩ := hread
  exact Segment.areDistinct_of_ofItems? hitems

/-- **Rules that are read** have a grammar with different words in each branch, if they have one. -/
theorem areDistinct_of_ofText {text : String} (h : ofText text = .ok n) {g : Grammar}
    (hg : n.options = some g) : Segment.areDistinct g = true := by
  rw [ofText] at h
  split at h
  · next options delimiters separator hread =>
    obtain ⟨m, -, hm⟩ := Option.bind_eq_some_iff.mp hread
    rw [(of_eq_ok h).1] at hg
    subst hg
    rw [ofNode?] at hm
    split at hm
    · simp at hm
    · split at hm
      · next o d s hoptions _ _ =>
        obtain ⟨rfl, -⟩ := Prod.mk.inj (Option.some.inj hm)
        rw [Yaml.Node.fieldOr?] at hoptions
        split at hoptions
        · simp at hoptions
        · simp at hoptions
        · exact areDistinct_of_optional? hoptions
      · simp at hm
  · simp at h

/-- Rules that were accepted are **accepted as they are**. -/
theorem of_self {options : Option Grammar} {delimiters : List String} {separator : String}
    (hof : of options delimiters separator = .ok n) :
    of n.options n.delimiters n.separator = .ok n := by
  obtain ⟨hseparator, hdelimiters⟩ := ne_empty_of_eq_ok hof
  obtain ⟨-, rfl, hmem, -⟩ := of_eq_ok hof
  have hnone : ¬n.delimiters.any String.isEmpty = true := fun hany => by
    obtain ⟨d, hd, hempty⟩ := List.any_eq_true.mp hany
    exact hdelimiters d hd (String.isEmpty_iff.mp hempty)
  rw [of, if_neg (mt String.isEmpty_iff.mp hseparator), if_neg hnone,
    if_pos (List.contains_iff_mem.mpr hmem)]

/-- The node that spells a grammar, or that there is none. -/
def optionsNode (options : Option Grammar) : Yaml.Node :=
  (options.map fun g => Yaml.Node.seq none (Segment.toNodes g)).getD (.scalar none true "null")

/-- The **node** that spells rules, with every text in quotes. -/
def toNode (n : Naming) : Yaml.Node :=
  .map none [(.scalar none false "options", optionsNode n.options),
    (.scalar none false "delimiters", .seq none (n.delimiters.map (.scalar none false))),
    (.scalar none false "repo_separator", .scalar none false n.separator)]

/-- Texts in quotes mean **themselves**. -/
theorem ofItems?_quoted : ∀ ss : List String,
    Value.ofItems? (ss.map (.scalar none false)) = some (ss.map .str) ∧
      Yaml.Node.areBare (ss.map (.scalar none false)) = true
  | [] => ⟨rfl, rfl⟩
  | s :: ss => ⟨Yaml.Node.ofItems?_cons.mpr ⟨.str s, _, rfl, (ofItems?_quoted ss).1, rfl⟩,
      Bool.and_eq_true_iff.mpr ⟨rfl, (ofItems?_quoted ss).2⟩⟩

/-- The node that spells a grammar is bare, and **means what is written** for it. -/
theorem ofNode?_optionsNode : ∀ {options : Option Grammar},
    (∀ g, options = some g → Segment.areDistinct g = true) → (optionsNode options).isBare = true ∧
      Value.ofNode? (optionsNode options) =
        some ((options.map fun g => Value.seq (Segment.toValues g)).getD .null)
  | none, _ => ⟨rfl, by decide +kernel⟩
  | some g, h => ⟨Segment.areBare_toNodes g,
      Yaml.Node.ofNode?_seq.mpr ⟨_, Segment.ofItems?_toNodes (h g rfl), rfl⟩⟩

/-- **The node that spells rules** is bare, and means what is written for them, if no branch of their
grammar has a word twice. -/
theorem ofNode?_toNode (h : ∀ g, n.options = some g → Segment.areDistinct g = true) :
    n.toNode.isBare = true ∧ Value.ofNode? n.toNode = some n.toValue := by
  obtain ⟨hbare, hoptions⟩ := ofNode?_optionsNode h
  obtain ⟨hdelimiters, hquoted⟩ := ofItems?_quoted n.delimiters
  constructor
  · simp [toNode, Yaml.Node.isBare, Yaml.Node.pairsBare, hbare, hquoted]
  · refine Yaml.Node.ofNode?_map.mpr ⟨_, ?_, ?_, rfl⟩
    · refine Yaml.Node.ofPairs?_cons.mpr ⟨.str "options", _, _, rfl, hoptions, ?_, rfl⟩
      refine Yaml.Node.ofPairs?_cons.mpr ⟨.str "delimiters", _, _, rfl,
        Yaml.Node.ofNode?_seq.mpr ⟨_, hdelimiters, rfl⟩, ?_, rfl⟩
      exact Yaml.Node.ofPairs?_cons.mpr ⟨.str "repo_separator", .str n.separator, _, rfl, rfl, rfl, rfl⟩
    · simp [Value.repeats, Value.same]

/-- **Rules that are saved are loaded** as they were.  Every bare node that means what is written for
accepted rules is read as their grammar, delimiters and separator, and there is one, if no branch has a
word twice; they are accepted again, as the same rules.  So where the document is read back as the value
it was written from, it holds the rules, and a file it was written to does. -/
theorem ofText_text {options : Option Grammar} {delimiters : List String} {separator : String}
    (hof : of options delimiters separator = .ok n) :
    (∀ m : Yaml.Node, m.isBare = true → Value.ofNode? m = some n.toValue →
      ofNode? m = some (n.options, n.delimiters, n.separator)) ∧
    ((∀ g, options = some g → Segment.areDistinct g = true) →
      n.toNode.isBare = true ∧ Value.ofNode? n.toNode = some n.toValue) ∧
    of n.options n.delimiters n.separator = .ok n ∧
    (n.toValue.isReadBack = true → ofText n.text = .ok n ∧
      ∀ (d d' : Disk) (p : Path), d.writeFile p n.text.toUTF8 = .ok d' → load d' p = .ok n) := by
  have hself := of_self hof
  refine ⟨fun m hbare h => ofNode?_of_value hbare h, fun h => ofNode?_toNode ?_, hself,
    fun hread => ?_⟩
  · rwa [(of_eq_ok hof).1]
  · obtain ⟨m, htext, hbare, hvalue⟩ := Value.isReadBack_iff.mp hread
    have hback : ofText n.text = .ok n := by
      rw [ofText, text, htext, Option.bind_some, ofNode?_of_value hbare hvalue]
      exact hself
    refine ⟨hback, fun d d' p hwrite => ?_⟩
    have hthere := Disk.readBytes_of_writeFile hwrite (Disk.writeFile_grows hwrite)
      (Disk.writeFile_sets hwrite).look_self
    rw [load, Disk.readText_eq_ok.mpr hthere]
    exact hback

/-- Rules with a word, and a **branch** in which another one has words that look like nothing and like
a number. -/
def nested : Naming where
  options := some [.word "a", .branch [("b", [.word "~", .branch [("null", []), ("d", [.word "12"])]]),
    ("e", [])]]
  delimiters := ["..", "-"]
  separator := "-"

/-- The document of the sample holds **the sample**, and so does a file that it is written to. -/
theorem ofText_text_nested : of nested.options [".."] "-" = .ok nested ∧
    nested.toValue.isReadBack = true ∧ ofText nested.text = .ok nested ∧
    ofNode? nested.toNode = some (nested.options, [".."] ++ ["-"], "-") ∧
    ∃ d, (Disk.bare ["w"]).writeFile ⟨"rules"⟩ nested.text.toUTF8 = .ok d ∧
      load d ⟨"rules"⟩ = .ok nested := by
  have hof : of nested.options [".."] "-" = .ok nested := rfl
  have hread : nested.toValue.isReadBack = true := by decide +kernel
  have hdistinct : ∀ g, nested.options = some g → Segment.areDistinct g = true := by
    rintro g hg
    obtain rfl := Option.some.inj hg
    decide
  obtain ⟨hnode, hspelled, -, hback⟩ := ofText_text hof
  obtain ⟨htext, hload⟩ := hback hread
  obtain ⟨hbare, hvalue⟩ := hspelled hdistinct
  have hwrite : ((Disk.bare ["w"]).writeFile ⟨"rules"⟩ nested.text.toUTF8).isOk = true := by
    decide +kernel
  cases hw : (Disk.bare ["w"]).writeFile ⟨"rules"⟩ nested.text.toUTF8 with
  | error fault =>
    rw [hw] at hwrite
    exact absurd hwrite Bool.false_ne_true
  | ok d => exact ⟨hof, hread, htext, hnode _ hbare hvalue, d, rfl, hload _ d _ hw⟩

end Naming

end Scaffold
