import Scaffold.Naming.Basic
import Scaffold.Proofs.Text.Split

/-!
# Proofs/Naming/Parts — the parts of a name

Where every delimiter is one character, a name is cut at the characters that are delimiters
(`cut_eq_splitOnP`).  So a delimiter between two names parts them (`parts_append`), and the name of
the repository has the parts of the name it was made from (`parts_repoName`).
-/

namespace Scaffold.Naming

/-! ## Cutting at single characters -/

section Cut

variable {ds : List (List Char)}

/-- Of delimiters that are one character each, a text starts with the one that is its first
**character**. -/
theorem delimiterAt?_cons (h : ∀ d ∈ ds, d.length = 1) (c : Char) (cs : List Char) :
    delimiterAt? ds (c :: cs) = if ds.contains [c] then some [c] else none := by
  have hstart : ∀ d ∈ ds, d.isPrefixOf (c :: cs) = true → d = [c] := fun d hd hpre => by
    obtain ⟨x, rfl⟩ := List.length_eq_one_iff.mp (h d hd)
    rw [List.isPrefixOf_iff_prefix, List.cons_prefix_cons] at hpre
    rw [hpre.1]
  rw [delimiterAt?]
  split
  · next hmem =>
    cases hfound : ds.find? fun d => d.isPrefixOf (c :: cs) with
    | some d =>
      have hpre : d.isPrefixOf (c :: cs) = true := by simpa using List.find?_some hfound
      rw [hstart d (List.mem_of_find?_eq_some hfound) hpre]
    | none =>
      have hno := List.find?_eq_none.mp hfound [c] (List.contains_iff_mem.mp hmem)
      exact absurd (by simp) hno
  · next hmem =>
    refine List.find?_eq_none.mpr fun d hd hpre => hmem ?_
    rw [List.contains_iff_mem, ← hstart d hd hpre]
    exact hd

/-- **Cutting at single characters** splits at each of them. -/
theorem cut_eq_splitOnP (h : ∀ d ∈ ds, d.length = 1) : ∀ cs : List Char,
    cut ds 0 cs = cs.splitOnP fun c => ds.contains [c]
  | [] => by rw [cut, List.splitOnP_nil]
  | c :: cs => by
    have ih := cut_eq_splitOnP h cs
    obtain ⟨q, qs, hq⟩ := List.exists_cons_of_ne_nil
      (List.splitOnP_ne_nil (fun c => ds.contains [c]) cs)
    rw [cut, delimiterAt?_cons h, List.splitOnP_cons_eq_if_modifyHead]
    by_cases hc : ds.contains [c] = true
    · simp only [if_pos hc]
      exact congrArg ([] :: ·) ih
    · simp only [if_neg hc, ih, hq]
      rfl

end Cut

/-- Splitting what was split and **rejoined** at a separator gives the same pieces again. -/
theorem splitOnP_joinWith_splitOnP {p : Char → Bool} {sep : Char} (hsep : p sep = true) :
    ∀ cs : List Char, (Text.joinWith [sep] (cs.splitOnP p)).splitOnP p = cs.splitOnP p
  | [] => rfl
  | c :: cs => by
    have ih := splitOnP_joinWith_splitOnP hsep cs
    obtain ⟨q, qs, hq⟩ := List.exists_cons_of_ne_nil (List.splitOnP_ne_nil p cs)
    rw [hq] at ih
    rw [List.splitOnP_cons_eq_if_modifyHead, hq]
    by_cases hc : p c = true
    · rw [if_pos hc, Text.joinWith, List.nil_append, List.singleton_append,
        List.splitOnP_cons_eq_if_modifyHead, if_pos hsep, ih]
    · have hhead : Text.joinWith [sep] ((c :: q) :: qs) = c :: Text.joinWith [sep] (q :: qs) := by
        cases qs <;> rfl
      rw [if_neg hc, List.modifyHead_cons, hhead, List.splitOnP_cons_eq_if_modifyHead, if_neg hc,
        ih, List.modifyHead_cons]

/-! ## Rules -/

variable {n : Naming} {g : Grammar}

/-- A grammar with entries **constrains** names. -/
theorem constraints?_eq_some : n.constraints? = some g ↔ n.options = some g ∧ g ≠ [] := by
  simp [constraints?, Option.filter_eq_some_iff]

/-- Every delimiter is **one character**. -/
def SingleMarks (n : Naming) : Prop := ∀ d ∈ n.delimiters, d.length = 1

instance (n : Naming) : Decidable n.SingleMarks :=
  inferInstanceAs (Decidable (∀ d ∈ n.delimiters, d.length = 1))

/-- Whether a character is a delimiter. -/
def isMark (n : Naming) (c : Char) : Bool := (n.delimiters.map String.toList).contains [c]

/-- A delimiter of one character is a character that cuts names. -/
theorem SingleMarks.exists_mark (h : n.SingleMarks) {d : String} (hd : d ∈ n.delimiters) :
    ∃ c, d.toList = [c] ∧ n.isMark c = true := by
  obtain ⟨c, hc⟩ := List.length_eq_one_iff.mp ((String.length_toList).trans (h d hd))
  refine ⟨c, hc, List.contains_iff_mem.mpr ?_⟩
  rw [← hc]
  exact List.mem_map_of_mem hd

/-- The parts of a constrained name are its **pieces between delimiters**. -/
theorem parts_eq_splitOnP (hg : n.constraints? = some g) (h : n.SingleMarks) (name : String) :
    n.parts name = (name.toList.splitOnP n.isMark).map String.ofList := by
  have hone : ∀ d ∈ n.delimiters.map String.toList, d.length = 1 := fun d hd => by
    obtain ⟨s, hs, rfl⟩ := List.mem_map.mp hd
    exact String.length_toList.trans (h s hs)
  rw [parts, hg]
  exact congrArg (List.map String.ofList) (cut_eq_splitOnP hone name.toList)

/-- An unconstrained name is one part. -/
theorem parts_of_unconstrained (hg : n.constraints? = none) (name : String) :
    n.parts name = [name] := by rw [parts, hg]

/-- **A delimiter parts** what is in front of it and what comes behind. -/
theorem parts_append (hg : n.constraints? = some g) (h : n.SingleMarks) {d : String}
    (hd : d ∈ n.delimiters) (name more : String) :
    n.parts (name ++ d ++ more) = n.parts name ++ n.parts more := by
  obtain ⟨c, hc, hmark⟩ := h.exists_mark hd
  have hlist : (name ++ d ++ more).toList = name.toList ++ c :: more.toList := by
    rw [String.toList_append, String.toList_append, hc, List.append_assoc, List.singleton_append]
  rw [parts_eq_splitOnP hg h, parts_eq_splitOnP hg h, parts_eq_splitOnP hg h, hlist,
    List.splitOnP_append_cons _ _ hmark, List.map_append]

/-- **The name of the repository** has the parts of the name. -/
theorem parts_repoName (h : n.SingleMarks) (hsep : n.separator ∈ n.delimiters) (name : String) :
    n.parts (n.repoName name) = n.parts name := by
  cases hg : n.constraints? with
  | none =>
    rw [repoName, parts_of_unconstrained hg, parts_of_unconstrained hg]
    simp [Text.join, Text.joinWith]
  | some g =>
    obtain ⟨c, hc, hmark⟩ := h.exists_mark hsep
    have hback : ((name.toList.splitOnP n.isMark).map String.ofList).map String.toList =
        name.toList.splitOnP n.isMark := by simp
    rw [parts_eq_splitOnP hg h, repoName, parts_eq_splitOnP hg h, Text.join, String.toList_ofList,
      hback, hc, splitOnP_joinWith_splitOnP hmark]

/-! ## Rules that are accepted -/

/-- **Rules that are accepted** keep what they were given, and have their separator among their
delimiters. -/
theorem of_eq_ok {options : Option Grammar} {delimiters : List String} {separator : String}
    (h : of options delimiters separator = .ok n) :
    n.options = options ∧ n.separator = separator ∧ separator ∈ n.delimiters ∧
      ∀ d ∈ n.delimiters, d ∈ delimiters ∨ d = separator := by
  rw [of] at h
  split at h
  · simp at h
  split at h
  · simp at h
  split at h
  · next hmem =>
    obtain rfl := Except.ok.inj h
    exact ⟨rfl, rfl, List.contains_iff_mem.mp hmem, fun d hd => Or.inl hd⟩
  · obtain rfl := Except.ok.inj h
    exact ⟨rfl, rfl, by simp, fun d hd => by simpa using hd⟩

/-- Rules that are accepted have **no empty delimiter**, and no empty separator. -/
theorem ne_empty_of_eq_ok {options : Option Grammar} {delimiters : List String} {separator : String}
    (h : of options delimiters separator = .ok n) :
    n.separator ≠ "" ∧ ∀ d ∈ n.delimiters, d ≠ "" := by
  obtain ⟨-, rfl, -, hall⟩ := of_eq_ok h
  have hseparator : n.separator ≠ "" := fun hempty => by
    rw [of, if_pos (String.isEmpty_iff.mpr hempty)] at h
    simp at h
  refine ⟨hseparator, fun d hd hempty => ?_⟩
  rcases hall d hd with hgiven | rfl
  · have hany : delimiters.any String.isEmpty = true :=
      List.any_eq_true.mpr ⟨d, hgiven, String.isEmpty_iff.mpr hempty⟩
    rw [of, if_neg (mt String.isEmpty_iff.mp hseparator), if_pos hany] at h
    simp at h
  · exact hseparator hempty

end Scaffold.Naming
