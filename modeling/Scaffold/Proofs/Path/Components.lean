import Mathlib.Data.List.DropRight
import Scaffold.Proofs.Path.Slices

/-!
# Proofs/Path/Components — paths to the same place

The parent of a path has all of its components but the last (`components_of_parent?`), and a name
that is appended is one more (`components_joinName`).  What a relative path adds to a path depends
on that path only by whether it is empty (`components_join`), so paths with the same components that
are joined to the same lead to the same place (`sameAs_join`).
-/

namespace Scaffold.Path

variable {p q x : Path}

/-- Paths are the same if their components are. -/
theorem sameAs_iff : p.sameAs q = true ↔ p.components = q.components := decide_eq_true_iff

theorem sameAs_refl (p : Path) : p.sameAs p = true := sameAs_iff.mpr rfl

theorem sameAs_symm (h : p.sameAs q = true) : q.sameAs p = true :=
  sameAs_iff.mpr (sameAs_iff.mp h).symm

theorem sameAs_trans (h : p.sameAs q = true) (h' : q.sameAs x = true) : p.sameAs x = true :=
  sameAs_iff.mpr ((sameAs_iff.mp h).trans (sameAs_iff.mp h'))

/-- A path may be **replaced** by one that is the same. -/
theorem sameAs_congr (h : p.sameAs q = true) (x : Path) : p.sameAs x = q.sameAs x := by
  rw [sameAs, sameAs, sameAs_iff.mp h]

/-- A path may be replaced by one that is the same, **on the other side** as well. -/
theorem sameAs_congr_right (h : p.sameAs q = true) (x : Path) : x.sameAs p = x.sameAs q := by
  rw [sameAs, sameAs, sameAs_iff.mp h]

/-! ## Pieces that count -/

/-- The pieces that **count** where they are the first ones of a path. -/
def countingIn (p : Path) : List (List Char) → List (List Char)
  | [] => []
  | q :: qs => (if p.countsFirst q then [q] else []) ++ qs.filter countsInside

theorem counting_eq (p : Path) : p.counting = p.countingIn p.pieces := by
  rw [counting]
  cases p.pieces <;> rfl

/-- Which pieces count depends only on whether the path is **absolute**. -/
theorem countingIn_congr (h : q.isAbsolute = p.isAbsolute) : ∀ ps, q.countingIn ps = p.countingIn ps
  | [] => rfl
  | t :: ts => by rw [countingIn, countingIn, countsFirst, countsFirst, h]

/-- Behind the first piece all that **count inside** do. -/
theorem countingIn_append (p : Path) {ps : List (List Char)} (hps : ps ≠ [])
    (qs : List (List Char)) :
    p.countingIn (ps ++ qs) = p.countingIn ps ++ qs.filter countsInside := by
  obtain ⟨t, ts, rfl⟩ := List.exists_cons_of_ne_nil hps
  rw [List.cons_append, countingIn, countingIn, List.filter_append, List.append_assoc]

/-- In an absolute path the first piece is **like any other**. -/
theorem countingIn_of_absolute (h : p.isAbsolute = true) :
    ∀ ps, p.countingIn ps = ps.filter countsInside
  | [] => rfl
  | t :: ts => by
    rw [countingIn, countsFirst, if_pos h, List.filter_cons]
    split <;> rfl

/-- A path that goes on with more pieces that count has **more components**. -/
theorem components_append {us : List (List Char)} (habs : q.isAbsolute = p.isAbsolute)
    (h : q.counting = p.counting ++ us) : q.components = p.components ++ us.map componentOf := by
  rw [components, components, habs, h, List.map_append, List.append_assoc]

/-- Pieces that count are pieces that are **not empty**. -/
theorem mem_counting {u : List Char} (h : u ∈ p.counting) : u ∈ p.pieces ∧ u ≠ [] := by
  have hinside : ∀ {v : List Char}, countsInside v = true → v ≠ [] := by
    rintro v hv rfl
    simp [countsInside] at hv
  have hfirst : ∀ {v : List Char}, p.countsFirst v = true → v ≠ [] := by
    rintro v hv rfl
    simp [countsFirst, countsInside] at hv
  rw [counting_eq] at h
  rcases hps : p.pieces with _ | ⟨t, ts⟩
  · rw [hps] at h
    exact absurd h List.not_mem_nil
  · rw [hps, countingIn, List.mem_append, List.mem_filter] at h
    rcases h with h | ⟨h, hu⟩
    · split at h
      · next ht =>
        obtain rfl := List.mem_singleton.mp h
        exact ⟨List.mem_cons_self, hfirst ht⟩
      · exact absurd h List.not_mem_nil
    · exact ⟨List.mem_cons_of_mem _ h, hinside hu⟩

/-- The empty path has no components. -/
theorem components_of_isEmpty (h : p.text.isEmpty = true) : p.components = [] := by
  obtain rfl : p = ⟨""⟩ := by rw [← String.isEmpty_iff.mp h]
  decide +kernel

/-- Only the empty path has **no components**. -/
theorem isEmpty_of_components (h : p.components = []) : p.text.isEmpty = true := by
  rw [components, List.append_eq_nil_iff, List.map_eq_nil_iff] at h
  have habs : p.isAbsolute = false := by simpa using h.1
  have hcounting := h.2
  rw [counting_eq, pieces_of_relative habs] at hcounting
  have hne : p.slices ≠ [] := Text.splitChar_ne_nil p.text.toList
  obtain ⟨t, ts, hslices⟩ := List.exists_cons_of_ne_nil hne
  rw [hslices, countingIn, countsFirst, habs, List.append_eq_nil_iff] at hcounting
  obtain rfl : t = [] := by simpa using hcounting.1
  rcases Text.eq_nil_or_head_of_splitChar hslices with hnil | hhead
  · exact String.isEmpty_iff.mpr (String.toList_eq_nil_iff.mp hnil)
  · rw [isAbsolute, hhead] at habs
    simp at habs

/-! ## The parent -/

/-- Dropping at the end what does not pass a test leaves **all that does**. -/
theorem filter_rdropWhile_not {α : Type} (f : α → Bool) (l : List α) :
    (l.rdropWhile fun a => !f a).filter f = l.filter f := by
  induction l using List.reverseRecOn with
  | nil => rfl
  | append_singleton l a ih =>
    rw [List.rdropWhile_concat]
    split
    · next hf =>
      rw [Bool.not_eq_true'] at hf
      rw [ih, List.filter_append, List.filter_singleton, hf, cond_false, List.append_nil]
    · rfl

/-- Trimming drops what does **not count** at the end. -/
theorem trimEnd_cons (p : Path) (t : List Char) (ts : List (List Char)) :
    (ts.filter countsInside = [] ∧ p.trimEnd (t :: ts) = p.countingIn [t]) ∨
      ∃ us u, countsInside u = true ∧ p.trimEnd (t :: ts) = t :: us ++ [u] ∧
        (us ++ [u]).filter countsInside = ts.filter countsInside := by
  have hfilter := filter_rdropWhile_not countsInside ts
  rcases List.eq_nil_or_concat (ts.rdropWhile fun x => !countsInside x) with hnil | ⟨us, u, hrest⟩
  · refine Or.inl ⟨by rw [← hfilter, hnil]; rfl, ?_⟩
    rw [List.rdropWhile] at hnil
    simp only [trimEnd, hnil, countingIn, List.filter_nil, List.append_nil]
  · rw [List.concat_eq_append] at hrest
    have hu : countsInside u = true := by
      have hlast := List.rdropWhile_last_not (fun x => !countsInside x) ts (by rw [hrest]; simp)
      simpa [hrest] using hlast
    refine Or.inr ⟨us, u, hu, ?_, by rw [← hfilter, hrest]⟩
    rw [List.rdropWhile] at hrest
    rw [trimEnd, hrest]
    cases us <;> rfl

/-- Trimming drops only pieces that do not **count**. -/
theorem countingIn_trimEnd (p : Path) : ∀ ps, p.countingIn (p.trimEnd ps) = p.countingIn ps
  | [] => rfl
  | t :: ts => by
    rcases trimEnd_cons p t ts with ⟨hnone, htrim⟩ | ⟨us, u, -, htrim, hfilter⟩
    · rw [htrim]
      by_cases ht : p.countsFirst t = true
      · simp [countingIn, ht, hnone]
      · simp [countingIn, ht, hnone]
    · rw [htrim, List.cons_append, countingIn, countingIn, hfilter]

/-- The last piece that trimming leaves **counts**. -/
theorem countingIn_of_trimEnd {ps us : List (List Char)} {u : List Char}
    (h : p.trimEnd ps = us ++ [u]) : p.countingIn (us ++ [u]) = p.countingIn us ++ [u] := by
  cases ps with
  | nil => simp [trimEnd] at h
  | cons t ts =>
    rcases trimEnd_cons p t ts with ⟨-, htrim⟩ | ⟨vs, v, hv, htrim, -⟩
    · by_cases ht : p.countsFirst t = true
      · have hone : us ++ [u] = [] ++ [t] := by simp [← h, htrim, countingIn, ht]
        obtain ⟨rfl, rfl⟩ := List.append_singleton_inj.mp hone
        simp [countingIn, ht]
      · simp [htrim, countingIn, ht] at h
    · obtain ⟨rfl, rfl⟩ := List.append_singleton_inj.mp (htrim.symm.trans h)
      rw [countingIn_append p (List.cons_ne_nil _ _), List.filter_singleton, hv, cond_true]

/-- **Some of the first pieces** written out count as they do. -/
theorem counting_ofPieces {ts : List (List Char)} (hts : ts <+: p.pieces) :
    (p.ofPieces ts).isAbsolute = p.isAbsolute ∧ (p.ofPieces ts).counting = p.countingIn ts := by
  by_cases hempty : (p.ofPieces ts).text.isEmpty = true
  · -- Only the pieces of the empty text write out nothing.
    have hnil : (p.ofPieces ts).text.toList = [] := by simpa using hempty
    have hempty : p.ofPieces ts = ⟨""⟩ := by rw [← String.isEmpty_iff.mp hempty]
    rw [ofPieces, String.toList_ofList, List.append_eq_nil_iff] at hnil
    have habs : p.isAbsolute = false := by simpa using hnil.1
    have hts : p.countingIn ts = [] := by
      rcases ts with _ | ⟨t, _ | ⟨t', ts⟩⟩
      · rfl
      · obtain rfl : t = [] := by simpa [Text.joinWith] using hnil.2
        simp [countingIn, countsFirst, habs]
      · simp [Text.joinWith] at hnil
    rw [hempty, habs, hts]
    exact ⟨by decide +kernel, by decide +kernel⟩
  · obtain ⟨habs, hpieces⟩ := pieces_ofPieces hts (Bool.not_eq_true _ ▸ hempty)
    refine ⟨habs, ?_⟩
    rw [counting_eq, countingIn_congr habs]
    rcases hpieces with hpieces | ⟨rfl, htrue, hpieces⟩
    · rw [hpieces]
    · rw [hpieces, countingIn_of_absolute htrue]
      rfl

/-- **The parent of a path** has all of its components but the last. -/
theorem components_of_parent? (h : p.parent? = some q) :
    ∃ c, p.components = q.components ++ [c] := by
  rw [parent?] at h
  split at h
  · simp at h
  next ps hps =>
  obtain ⟨us, u, hlast⟩ := (List.eq_nil_or_concat (p.trimEnd p.pieces)).resolve_left hps
  rw [List.concat_eq_append] at hlast
  rw [hlast, List.dropLast_concat, Option.some.injEq] at h
  have hus : p.trimEnd us <+: p.pieces :=
    (prefix_trimEnd p us).trans ((List.prefix_append us [u]).trans (hlast ▸ prefix_trimEnd p _))
  obtain ⟨habs, hcounting⟩ := counting_ofPieces hus
  rw [h, countingIn_trimEnd] at hcounting
  rw [h] at habs
  have hmore : p.counting = q.counting ++ [u] := by
    rw [hcounting, ← countingIn_of_trimEnd hlast, ← hlast, countingIn_trimEnd, counting_eq]
  exact ⟨componentOf u, components_append habs.symm hmore⟩

/-- The last component of a path is a **plain name**, if it is one. -/
theorem isPlain_of_fileName? {name : String} (h : p.fileName? = some name) : IsPlain name := by
  have hmem : Component.name name ∈ p.components := by
    rw [fileName?] at h
    split at h
    · next s hs =>
      obtain rfl := Option.some.inj h
      exact List.mem_of_getLast? hs
    · simp at h
  have hmem : Component.name name ∈ p.counting.map componentOf := by
    rw [components, List.mem_append] at hmem
    refine hmem.resolve_left fun hroot => ?_
    split at hroot <;> simp at hroot
  obtain ⟨u, hu, hname⟩ := List.mem_map.mp hmem
  obtain ⟨hpieces, hne⟩ := mem_counting hu
  rw [componentOf] at hname
  split at hname
  · simp at hname
  next hhere =>
  split at hname
  · simp at hname
  next hup =>
  obtain rfl := Component.name.inj hname
  constructor
  · rwa [String.toList_ofList]
  · rwa [String.toList_ofList]
  · rwa [String.toList_ofList]
  · rw [String.toList_ofList]
    exact not_mem_of_mem_pieces hpieces

/-! ## Joining -/

/-- Joined to the empty path, a path is itself. -/
theorem join_of_isEmpty (h : p.text.isEmpty = true) (x : Path) : p.join x = x := by
  rw [join, String.isEmpty_iff.mp h]
  split
  · rfl
  · simp

/-- A path joined to another is empty only if that is. -/
theorem isEmpty_of_join {base p : Path} (h : (base.join p).text.isEmpty = true) :
    base.text.isEmpty = true := by
  rw [join] at h
  split at h
  · next habs =>
    rw [String.isEmpty_iff] at h
    rw [isAbsolute, h] at habs
    simp at habs
  · split at h
    · have htext : base.text = "" ∧ p.text = "" := by simpa using h
      rw [htext.1]
      rfl
    · simp at h

/-- **A relative path** adds its components to a path that is not empty; a dot in front does not
count then. -/
theorem components_join (hx : x.isAbsolute = false) (hp : p.text.isEmpty = false) :
    (p.join x).components =
      p.components ++ (x.slices.filter countsInside).map componentOf := by
  obtain ⟨habs, hslices⟩ := slices_join hx p
  refine components_append habs ?_
  rw [counting_eq, counting_eq, countingIn_congr habs]
  cases hroot : p.isAbsolute with
  | true =>
    have hall : ∀ {q : Path}, q.isAbsolute = true →
        q.pieces.filter countsInside = q.slices.filter countsInside := fun h => by
      rw [slices_of_absolute h]
      rfl
    rw [countingIn_of_absolute hroot, countingIn_of_absolute hroot, hall hroot,
      hall (habs.trans hroot)]
    rcases hslices with hslices | ⟨front, hfront, hslices⟩
    · rw [hslices, List.filter_append]
    · rw [hslices, hfront, List.filter_append, List.filter_append]
      simp [countsInside]
  | false =>
    rw [pieces_of_relative hroot, pieces_of_relative (habs.trans hroot)]
    rcases hslices with hslices | ⟨front, hfront, hslices⟩
    · have hne : p.slices ≠ [] := Text.splitChar_ne_nil _
      rw [hslices, countingIn_append p hne]
    · -- Before the slash at the end there is a first piece, since the path is not the root.
      have hne : front ≠ [] := by
        rintro rfl
        rcases Text.eq_nil_or_head_of_splitChar hfront with hnil | hhead
        · rw [String.toList_eq_nil_iff] at hnil
          rw [hnil] at hp
          simp at hp
        · simp [isAbsolute, hhead] at hroot
      rw [hslices, hfront, countingIn_append p hne, countingIn_append p hne]
      simp [countsInside]

/-- A relative path adds its components **behind** those of the path it is joined to. -/
theorem prefix_components_join (hx : x.isAbsolute = false) (p : Path) :
    p.components <+: (p.join x).components := by
  cases hp : p.text.isEmpty with
  | true =>
    rw [components_of_isEmpty hp]
    exact List.nil_prefix
  | false =>
    rw [components_join hx hp]
    exact List.prefix_append _ _

/-- **A plain name** that is appended is one more component. -/
theorem components_joinName {name : String} (hn : IsPlain name) (p : Path) :
    (p.joinName name).components = p.components ++ [.name name] := by
  have hinside : countsInside name.toList = true := by
    simp [countsInside, hn.ne_nil, hn.ne_here]
  have hname : componentOf name.toList = .name name := by
    rw [componentOf, if_neg hn.ne_here, if_neg hn.ne_up, String.ofList_toList]
  rw [joinName]
  by_cases hp : p.text.isEmpty = true
  · have hfirst : (⟨name⟩ : Path).counting = [name.toList] := by
      rw [counting_eq, pieces_of_relative hn.isAbsolute, hn.slices, countingIn, countsFirst,
        hn.isAbsolute]
      simp [hn.ne_nil]
    rw [join_of_isEmpty hp, components_of_isEmpty hp, components, hn.isAbsolute, hfirst]
    simp [hname]
  · rw [components_join hn.isAbsolute (Bool.not_eq_true _ ▸ hp), hn.slices]
    simp [hinside, hname]

/-- Plain names that are appended are **as many components more**. -/
theorem components_joinAll : ∀ {names : List String}, (∀ n ∈ names, IsPlain n) → ∀ p : Path,
    (p.joinAll names).components = p.components ++ names.map .name
  | [], _, p => (List.append_nil _).symm
  | n :: names, h, p => by
    rw [List.forall_mem_cons] at h
    have hrest := components_joinAll h.2 (p.joinName n)
    rw [components_joinName h.1, List.append_assoc] at hrest
    exact hrest

/-- **Plain names** below a path lead to one place only if they are one name. -/
theorem eq_of_sameAs_joinName {name other : String} (hn : IsPlain name) (hother : IsPlain other)
    (h : (p.joinName name).sameAs (p.joinName other) = true) : name = other := by
  rw [sameAs_iff, components_joinName hn, components_joinName hother,
    List.append_cancel_left_eq] at h
  exact Component.name.inj (List.cons.inj h).1

/-- Paths to the same place, neither of them empty, lead to the **same place** behind the same
path. -/
theorem sameAs_join (h : p.sameAs q = true) (hp : p.text.isEmpty = false)
    (hq : q.text.isEmpty = false) (x : Path) : (p.join x).sameAs (q.join x) = true := by
  rw [sameAs_iff] at h ⊢
  cases hx : x.isAbsolute with
  | true => rw [join, join, if_pos hx, if_pos hx]
  | false => rw [components_join hx hp, components_join hx hq, h]

end Scaffold.Path
