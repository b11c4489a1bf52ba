import Scaffold.Proofs.Naming.Parts
import Mathlib.Data.List.Nodup

/-!
# Proofs/Naming/Paths — the names a grammar allows

The **paths** of a grammar lead along the words of branches to a word that stands alone.  A name that
passes starts with a path (`exists_path_of_matched`).  As entries are tried in order and the first
with the right word decides, a path may be hidden behind another entry; where every word stands once
on its level none is (`matched_of_path`).  Then the order of the entries does not count, and a name
that passes goes on passing with more parts behind it (`check_decides`).
-/

namespace Scaffold

/-- The **literals** of an entry: a word, or the words of a branch. -/
def Segment.literals : Segment → List String
  | .word w => [w]
  | .branch levels => levels.map Prod.fst

namespace Grammar

/-! ## Paths -/

/-- A **path**: words of branches, each on the level that the one before leads to, and at last a word
that stands alone. -/
inductive IsPath : Grammar → List String → Prop
  | word {g : Grammar} {w : String} (hw : .word w ∈ g) : IsPath g [w]
  | branch {g sub : Grammar} {levels : List (String × Grammar)} {w : String} {s : List String}
      (hb : .branch levels ∈ g) (hw : (w, sub) ∈ levels) (hs : IsPath sub s) : IsPath g (w :: s)

/-- No path is empty. -/
theorem IsPath.ne_nil {g : Grammar} {s : List String} (h : IsPath g s) : s ≠ [] := by
  cases h <;> exact List.cons_ne_nil _ _

/-- A path stays one where a level has more entries. -/
theorem IsPath.mono {g g' : Grammar} {s : List String} (h : IsPath g s) (hsub : g ⊆ g') :
    IsPath g' s := by
  cases h with
  | word hw => exact .word (hsub hw)
  | branch hb hw hs => exact .branch (hsub hb) hw hs

/-- Where one entry takes the place of another, the **others** stay. -/
theorem eq_or_mem_of_mem {a b : Grammar} {x y e : Segment} (h : e ∈ a ++ x :: b) :
    e = x ∨ e ∈ a ++ y :: b := by
  rw [List.mem_append, List.mem_cons] at h
  rcases h with h | h | h
  · exact Or.inr (List.mem_append_left _ h)
  · exact Or.inl h
  · exact Or.inr (List.mem_append_right _ (List.mem_cons_of_mem _ h))

section Branch

variable {a b : Grammar} {levels levels' : List (String × Grammar)}

/-- A path through a branch stays one where the branch leads to **more**. -/
theorem IsPath.of_branch {s : List String} (h : IsPath (a ++ .branch levels :: b) s)
    (hlevels : ∀ w sub t, (w, sub) ∈ levels → IsPath sub t →
      ∃ sub', (w, sub') ∈ levels' ∧ IsPath sub' t) :
    IsPath (a ++ .branch levels' :: b) s := by
  cases h with
  | word hw =>
    rcases eq_or_mem_of_mem hw with heq | hw
    · exact absurd heq (by simp)
    · exact .word hw
  | @branch _ sub levels₀ w t hb hw hs =>
    rcases eq_or_mem_of_mem hb with heq | hb
    · obtain rfl : levels₀ = levels := by simpa using heq
      obtain ⟨sub', hw', hs'⟩ := hlevels w sub t hw hs
      exact .branch (List.mem_append_right _ List.mem_cons_self) hw' hs'
    · exact .branch hb hw hs

end Branch

/-! ## Every literal once -/

/-- The literals of a level, in order. -/
def literals (g : Grammar) : List String := g.flatMap Segment.literals

/-- Every literal stands **once** on its level, here and on all levels below. -/
inductive Distinct : Grammar → Prop
  | intro {g : Grammar} (here : (literals g).Nodup)
      (inside : ∀ levels w sub, .branch levels ∈ g → (w, sub) ∈ levels → Distinct sub) : Distinct g

theorem Distinct.nodup {g : Grammar} (h : Distinct g) : (literals g).Nodup := by
  cases h with
  | intro here _ => exact here

theorem Distinct.sub {g sub : Grammar} {levels : List (String × Grammar)} {w : String}
    (h : Distinct g) (hb : .branch levels ∈ g) (hw : (w, sub) ∈ levels) : Distinct sub := by
  cases h with
  | intro _ inside => exact inside levels w sub hb hw

/-- Every literal stands once where a branch leads to **other levels** of which that is true, by the
same words in any order. -/
theorem Distinct.of_branch {a b : Grammar} {levels levels' : List (String × Grammar)}
    (h : Distinct (a ++ .branch levels :: b))
    (hwords : (levels.map Prod.fst).Perm (levels'.map Prod.fst))
    (hsub : ∀ w sub, (w, sub) ∈ levels' → Distinct sub) : Distinct (a ++ .branch levels' :: b) := by
  have hperm : (literals (a ++ .branch levels :: b)).Perm
      (literals (a ++ .branch levels' :: b)) := by
    simp only [literals, List.flatMap_append, List.flatMap_cons]
    exact (hwords.append_right _).append_left _
  refine .intro (hperm.nodup_iff.mp h.nodup) fun levels₀ w sub hb hw => ?_
  rcases eq_or_mem_of_mem hb with heq | hb
  · obtain rfl : levels₀ = levels' := by simpa using heq
    exact hsub w sub hw
  · exact h.sub hb hw

/-- Of an entry whose literals stand once, no literal stands **before** it. -/
theorem not_mem_literals_before {a b : Grammar} {e : Segment} (h : (literals (a ++ e :: b)).Nodup)
    {w : String} (hw : w ∈ e.literals) : w ∉ literals a := fun ha => by
  rw [literals, List.flatMap_append, List.nodup_append] at h
  refine h.2.2 w ha w ?_ rfl
  rw [List.flatMap_cons]
  exact List.mem_append_left _ hw

/-- The literals of an entry stand once if those of the level do. -/
theorem nodup_literals_of_mem {g : Grammar} {e : Segment} (h : (literals g).Nodup) (he : e ∈ g) :
    e.literals.Nodup := (List.nodup_flatMap.mp h).1 e he

/-! ## Another order -/

/-- Two grammars with the same entries on every level, in **another order**. -/
inductive Reordered : Grammar → Grammar → Prop
  /-- The entries of the level change places. -/
  | entries {g g' : Grammar} (h : g.Perm g') : Reordered g g'
  /-- The words of a branch change places. -/
  | words {a b : Grammar} {levels levels' : List (String × Grammar)} (h : levels.Perm levels') :
      Reordered (a ++ .branch levels :: b) (a ++ .branch levels' :: b)
  /-- A level below is reordered. -/
  | inside {a b : Grammar} {front back : List (String × Grammar)} {w : String} {sub sub' : Grammar}
      (h : Reordered sub sub') :
      Reordered (a ++ .branch (front ++ (w, sub) :: back) :: b)
        (a ++ .branch (front ++ (w, sub') :: back) :: b)
  | trans {g g' g'' : Grammar} (h : Reordered g g') (h' : Reordered g' g'') : Reordered g g''

theorem Reordered.symm {g g' : Grammar} (h : Reordered g g') : Reordered g' g := by
  induction h with
  | entries h => exact .entries h.symm
  | words h => exact .words h.symm
  | inside _ ih => exact .inside ih
  | trans _ _ ih ih' => exact .trans ih' ih

/-- Entries stay entries. -/
theorem Reordered.ne_nil {g g' : Grammar} (h : Reordered g g') (hg : g ≠ []) : g' ≠ [] := by
  induction h with
  | entries h => exact fun hnil => hg (List.perm_nil.mp (hnil ▸ h))
  | words _ => simp
  | inside _ _ => simp
  | trans _ _ ih ih' => exact ih' (ih hg)

/-- The paths stay. -/
theorem Reordered.isPath {g g' : Grammar} (h : Reordered g g') {s : List String}
    (hs : IsPath g s) : IsPath g' s := by
  induction h generalizing s with
  | entries h => exact hs.mono h.subset
  | words h => exact hs.of_branch fun w sub t hw ht => ⟨sub, h.subset hw, ht⟩
  | @inside a b front back v old new _ ih =>
    refine hs.of_branch fun w sub t hw ht => ?_
    rw [List.mem_append, List.mem_cons] at hw
    rcases hw with hw | hw | hw
    · exact ⟨sub, List.mem_append_left _ hw, ht⟩
    · obtain ⟨rfl, rfl⟩ := Prod.mk.inj hw
      exact ⟨new, List.mem_append_right _ List.mem_cons_self, ih ht⟩
    · exact ⟨sub, List.mem_append_right _ (List.mem_cons_of_mem _ hw), ht⟩
  | trans _ _ ih ih' => exact ih' (ih hs)

/-- Every literal goes on standing once. -/
theorem Reordered.distinct {g g' : Grammar} (h : Reordered g g') (hg : Distinct g) :
    Distinct g' := by
  induction h with
  | @entries g g' h =>
    have hperm : (literals g).Perm (literals g') := h.flatMap_right _
    exact .intro (hperm.nodup_iff.mp hg.nodup) fun levels w sub hb hw =>
      hg.sub (h.symm.subset hb) hw
  | words h =>
    refine hg.of_branch (h.map _) fun w sub hw => ?_
    exact hg.sub (List.mem_append_right _ List.mem_cons_self) (h.symm.subset hw)
  | @inside a b front back v old new _ ih =>
    have hold : ∀ w sub, (w, sub) ∈ front ++ (v, old) :: back → Distinct sub := fun w sub hw =>
      hg.sub (List.mem_append_right _ List.mem_cons_self) hw
    refine hg.of_branch (by simp) fun w sub hw => ?_
    rw [List.mem_append, List.mem_cons] at hw
    rcases hw with hw | hw | hw
    · exact hold w sub (List.mem_append_left _ hw)
    · obtain ⟨rfl, rfl⟩ := Prod.mk.inj hw
      exact ih (hold w old (List.mem_append_right _ List.mem_cons_self))
    · exact hold w sub (List.mem_append_right _ (List.mem_cons_of_mem _ hw))
  | trans _ _ ih ih' => exact ih' (ih hg)

end Grammar

/-! ## Matching -/

namespace Naming

variable {n : Naming} {parts : List String}

mutual

/-- **A match is a path**: parts that match a level start with a path. -/
theorem exists_path_of_matched : ∀ {g : Grammar} {parts seen : List String},
    n.tryEntries parts g seen = .matched → ∃ s, s <+: parts ∧ Grammar.IsPath g s
  | [], parts, seen, h => by
    rw [tryEntries] at h
    simp at h
  | .word w :: g, parts, seen, h => by
    rw [tryEntries] at h
    split at h
    · next hw =>
      obtain ⟨rest, rfl⟩ := List.head?_eq_some_iff.mp hw
      exact ⟨[w], List.prefix_append [w] rest, .word List.mem_cons_self⟩
    · obtain ⟨s, hs, hpath⟩ := exists_path_of_matched h
      exact ⟨s, hs, hpath.mono (List.subset_cons_self _ _)⟩
  | .branch levels :: g, parts, seen, h => by
    rw [tryEntries] at h
    split at h
    · obtain ⟨s, hs, hpath⟩ := exists_path_of_matched h
      exact ⟨s, hs, hpath.mono (List.subset_cons_self _ _)⟩
    · obtain ⟨w, sub, s, hw, hs, hpath⟩ := exists_path_of_matchedBranch h
      exact ⟨w :: s, hs, .branch List.mem_cons_self hw hpath⟩

/-- Parts that match a branch start with one of its words and a path of its level. -/
theorem exists_path_of_matchedBranch : ∀ {levels : List (String × Grammar)}
    {parts seen : List String}, n.tryLevels parts levels seen = .matched →
      ∃ w sub s, (w, sub) ∈ levels ∧ (w :: s) <+: parts ∧ Grammar.IsPath sub s
  | [], parts, seen, h => by
    rw [tryLevels] at h
    simp at h
  | (w, sub) :: levels, parts, seen, h => by
    rw [tryLevels] at h
    split at h
    · next hw =>
      obtain ⟨rest, rfl⟩ := List.head?_eq_some_iff.mp hw
      split at h
      · next hnone =>
        have hmatched : n.tryEntries rest sub [] = .matched := by
          cases htried : n.tryEntries rest sub [] <;> simp_all [Tried.sentence?]
        obtain ⟨s, hs, hpath⟩ := exists_path_of_matched hmatched
        exact ⟨w, sub, s, List.mem_cons_self, List.cons_prefix_cons.mpr ⟨rfl, hs⟩, hpath⟩
      · simp at h
    · obtain ⟨v, sub', s, hv, hs, hpath⟩ := exists_path_of_matchedBranch h
      exact ⟨v, sub', s, List.mem_cons_of_mem _ hv, hs, hpath⟩

end

/-- A part that is none of some words is **not the same** as any of them. -/
theorem head?_ne_of_not_mem {ws : List String} {w : String} (h : w ∉ ws) (rest : List String) :
    ∀ v ∈ ws, (w :: rest).head? ≠ some v := by
  rintro v hv heq
  exact h (Option.some.inj heq ▸ hv)

/-- Words of a branch that are not the first part are **passed over**. -/
theorem tryLevels_append {back : List (String × Grammar)} : ∀ {front : List (String × Grammar)}
    {seen : List String}, (∀ w ∈ front.map Prod.fst, parts.head? ≠ some w) →
      n.tryLevels parts (front ++ back) seen =
        n.tryLevels parts back (seen ++ front.map Prod.fst)
  | [], seen, _ => by simp
  | (w, sub) :: front, seen, h => by
    rw [List.map_cons, List.forall_mem_cons] at h
    rw [List.cons_append, tryLevels, if_neg h.1, tryLevels_append h.2, List.map_cons,
      List.append_assoc, List.singleton_append]

/-- Entries without the first part among their literals are **passed over**. -/
theorem tryEntries_append {b : Grammar} : ∀ {a : Grammar} {seen : List String},
    (∀ w ∈ Grammar.literals a, parts.head? ≠ some w) →
      n.tryEntries parts (a ++ b) seen = n.tryEntries parts b (seen ++ Grammar.literals a)
  | [], seen, _ => by simp [Grammar.literals]
  | .word w :: a, seen, h => by
    rw [Grammar.literals, List.flatMap_cons, Segment.literals, List.singleton_append,
      List.forall_mem_cons] at h
    rw [List.cons_append, tryEntries, if_neg h.1, tryEntries_append h.2, List.append_assoc]
    rfl
  | .branch levels :: a, seen, h => by
    rw [Grammar.literals, List.flatMap_cons, Segment.literals, List.forall_mem_append] at h
    have hmissed : n.tryLevels parts levels seen = .missed (seen ++ levels.map Prod.fst) := by
      have hall := @tryLevels_append n parts [] levels seen h.1
      rwa [List.append_nil, tryLevels] at hall
    rw [List.cons_append, tryEntries, hmissed]
    simp only
    rw [tryEntries_append h.2, List.append_assoc]
    rfl

/-- **A path is matched** where every literal stands once: no other entry comes before it. -/
theorem matched_of_path {g : Grammar} {s seen : List String} (hs : Grammar.IsPath g s)
    (hg : g.Distinct) (hpre : s <+: parts) : n.tryEntries parts g seen = .matched := by
  induction hs generalizing parts seen with
  | @word g w hw =>
    obtain ⟨rest, rfl⟩ := hpre
    obtain ⟨a, b, rfl⟩ := List.append_of_mem hw
    have hbefore := Grammar.not_mem_literals_before hg.nodup (List.mem_singleton_self w)
    rw [List.singleton_append, tryEntries_append (head?_ne_of_not_mem hbefore rest), tryEntries,
      if_pos List.head?_cons]
  | @branch g sub levels w s hb hw _ ih =>
    obtain ⟨rest, rfl⟩ := hpre
    have hinside := @ih (s ++ rest) [] (hg.sub hb hw) (List.prefix_append s rest)
    have honce := Grammar.nodup_literals_of_mem hg.nodup hb
    obtain ⟨a, b, rfl⟩ := List.append_of_mem hb
    have hbefore := Grammar.not_mem_literals_before hg.nodup (w := w)
      (List.mem_map.mpr ⟨(w, sub), hw, rfl⟩)
    obtain ⟨front, back, rfl⟩ := List.append_of_mem hw
    rw [Segment.literals, List.map_append, List.nodup_append] at honce
    have hwords : w ∉ front.map Prod.fst := fun hv => honce.2.2 w hv w List.mem_cons_self rfl
    rw [List.cons_append, tryEntries_append (head?_ne_of_not_mem hbefore _), tryEntries,
      tryLevels_append (head?_ne_of_not_mem hwords _), tryLevels, if_pos List.head?_cons,
      List.tail_cons, hinside]
    rfl

/-- A constrained name passes if its parts **match** the grammar. -/
theorem passes_iff_matched {g : Grammar} (hg : n.constraints? = some g) (name : String) :
    (n.check name).passes = true ↔ n.tryEntries (n.parts name) g [] = .matched := by
  rw [check, hg]
  simp only [matchLevel]
  cases n.tryEntries (n.parts name) g [] <;> simp [Tried.sentence?, Verdict.passes]

/-- Where every literal stands once, a constrained name passes **if and only if** it starts with a
path. -/
theorem passes_iff_exists_path {g : Grammar} (hg : n.constraints? = some g) (honce : g.Distinct)
    (name : String) : (n.check name).passes = true ↔
      ∃ s, s <+: n.parts name ∧ Grammar.IsPath g s := by
  rw [passes_iff_matched hg]
  exact ⟨exists_path_of_matched, fun ⟨s, hs, hpath⟩ => matched_of_path hpath honce hs⟩

/-- **The check decides the grammar.**  A name that passes starts with a path of the grammar.  Where
every literal stands once on its level, every name that starts with a path passes; the entries of any
level may change places; and, if every delimiter is one character, a name that passes still does with
a delimiter and any text behind it. -/
theorem check_decides {g : Grammar} (hoptions : n.options = some g) (hne : g ≠ []) :
    (∀ name, (n.check name).passes = true →
      ∃ s, s ≠ [] ∧ s <+: n.parts name ∧ Grammar.IsPath g s) ∧
    (g.Distinct →
      (∀ name s, s <+: n.parts name → Grammar.IsPath g s → (n.check name).passes = true) ∧
      (∀ g', g.Reordered g' → ∀ name,
        (({ n with options := some g' } : Naming).check name).passes = (n.check name).passes) ∧
      (n.SingleMarks → ∀ d ∈ n.delimiters, ∀ name more, (n.check name).passes = true →
        (n.check (name ++ d ++ more)).passes = true)) := by
  have hg := constraints?_eq_some.mpr ⟨hoptions, hne⟩
  refine ⟨fun name hpass => ?_, fun honce => ⟨fun name s hs hpath => ?_, fun g' hre name => ?_,
    fun hsingle d hd name more hpass => ?_⟩⟩
  · obtain ⟨s, hs, hpath⟩ := exists_path_of_matched ((passes_iff_matched hg name).mp hpass)
    exact ⟨s, hpath.ne_nil, hs, hpath⟩
  · exact (passes_iff_exists_path hg honce name).mpr ⟨s, hs, hpath⟩
  · have hne' : g' ≠ [] := hre.ne_nil hne
    have hg' : ({ n with options := some g' } : Naming).constraints? = some g' :=
      constraints?_eq_some.mpr ⟨rfl, hne'⟩
    have hparts : ({ n with options := some g' } : Naming).parts name = n.parts name := by
      rw [parts, parts, hg, hg']
    rw [Bool.eq_iff_iff, passes_iff_exists_path hg honce,
      passes_iff_exists_path hg' (hre.distinct honce), hparts]
    exact exists_congr fun s => and_congr_right fun _ => ⟨hre.symm.isPath, hre.isPath⟩
  · rw [passes_iff_exists_path hg honce] at hpass ⊢
    obtain ⟨s, hs, hpath⟩ := hpass
    rw [parts_append hg hsingle hd]
    exact ⟨s, hs.trans (List.prefix_append _ _), hpath⟩

/-- A grammar of **three levels**. -/
def threeLevels : Grammar :=
  [.branch [("a", [.branch [("b", [.word "c", .word "d"])], .word "e"])], .word "f"]

/-- The same grammar in another order, on the first level and on the second. -/
def threeLevelsTurned : Grammar :=
  [.word "f", .branch [("a", [.word "e", .branch [("b", [.word "c", .word "d"])]])]]

/-- Naming rules with three levels and the default delimiters. -/
def dotted : Naming := ⟨some threeLevels, defaultDelimiters, defaultSeparator⟩

/-- Every literal of the grammar stands once. -/
theorem distinct_threeLevels : threeLevels.Distinct := by
  have hleaf : Grammar.Distinct [.word "c", .word "d"] := .intro (by decide) (by simp)
  have hinner : Grammar.Distinct [.branch [("b", [.word "c", .word "d"])], .word "e"] := by
    refine .intro (by decide) fun levels w sub hb hw => ?_
    obtain rfl : levels = [("b", [.word "c", .word "d"])] := by simpa using hb
    rw [(Prod.mk.inj (List.mem_singleton.mp hw)).2]
    exact hleaf
  refine .intro (by decide) fun levels w sub hb hw => ?_
  obtain rfl : levels = [("a", [.branch [("b", [.word "c", .word "d"])], .word "e"])] := by
    simpa [threeLevels] using hb
  rw [(Prod.mk.inj (List.mem_singleton.mp hw)).2]
  exact hinner

/-- Two levels have changed their order. -/
theorem reordered_threeLevels : threeLevels.Reordered threeLevelsTurned :=
  .trans (@Grammar.Reordered.inside [] _ [] [] _ _ _ (.entries (.swap ..))) (.entries (.swap ..))

/-- A name of three parts passes, also by the grammar in another order and with a part behind it. -/
theorem check_decides_threeLevels : threeLevels ≠ [] ∧ threeLevels.Distinct ∧
    threeLevels.Reordered threeLevelsTurned ∧ dotted.SingleMarks ∧
    (dotted.check "a-b.d").passes = true ∧
    (({ dotted with options := some threeLevelsTurned } : Naming).check "a-b.d").passes = true ∧
    (dotted.check "a-b.d,x").passes = true := by
  have hne : threeLevels ≠ [] := List.cons_ne_nil _ _
  have hsingle : dotted.SingleMarks := by decide
  have hpath : threeLevels.IsPath ["a", "b", "d"] := by
    refine .branch List.mem_cons_self List.mem_cons_self ?_
    refine .branch List.mem_cons_self List.mem_cons_self ?_
    exact .word (List.mem_cons_of_mem _ List.mem_cons_self)
  have hparts : dotted.parts "a-b.d" = ["a", "b", "d"] := by decide +kernel
  obtain ⟨_, hdecides⟩ := check_decides (n := dotted) rfl hne
  obtain ⟨hcomplete, horder, hmore⟩ := hdecides distinct_threeLevels
  have hpass : (dotted.check "a-b.d").passes = true :=
    hcomplete "a-b.d" _ (hparts ▸ List.prefix_refl _) hpath
  exact ⟨hne, distinct_threeLevels, reordered_threeLevels, hsingle, hpass,
    (horder _ reordered_threeLevels _).trans hpass,
    hmore hsingle "," (by decide) "a-b.d" "x" hpass⟩

/-- Behind a branch with the same word a word is **never reached**. -/
example : (({ dotted with options := some [.branch [("a", [.word "b"])], .word "a"] } :
    Naming).check "a").passes = false := by decide +kernel

end Naming

end Scaffold
