import Scaffold.Proofs.Path.Components

/-!
# Proofs/Path/Within — paths that stay within another

A path lies **within** another if behind the components of that one it has names only, and **below**
it if there is at least one.  A plain name leads below any path (`below_joinName`).  A relative text
leads within a path exactly if it never goes up (`within_joinName_iff`), and one that is made of names
adds these, also to the empty path (`components_join_of_names`); an absolute one is where it is, whatever
it is joined to.
-/

namespace Scaffold.Path

variable {p q base x : Path} {s : String}

/-- A path lies **within** another: behind the components of that one it has names only. -/
def Within (p base : Path) : Prop :=
  ∃ names : List String, p.components = base.components ++ names.map .name

/-- A path lies **below** another: it is within, and does not lead to the same place. -/
def Below (p base : Path) : Prop :=
  ∃ names : List String, names ≠ [] ∧ p.components = base.components ++ names.map .name

theorem Within.refl (p : Path) : p.Within p := ⟨[], by simp⟩

theorem Below.within (h : p.Below base) : p.Within base := h.imp fun _ hnames => hnames.2

/-- What is below a path **within** another is below that. -/
theorem Below.trans_within (h : p.Below q) (h' : q.Within base) : p.Below base := by
  obtain ⟨names, hne, hp⟩ := h
  obtain ⟨front, hq⟩ := h'
  exact ⟨front ++ names, List.append_ne_nil_of_right_ne_nil _ hne,
    by rw [hp, hq, List.append_assoc, List.map_append]⟩

/-- What is within a path **below** another is below that. -/
theorem Within.trans_below (h : p.Within q) (h' : q.Below base) : p.Below base := by
  obtain ⟨names, hp⟩ := h
  obtain ⟨front, hne, hq⟩ := h'
  exact ⟨front ++ names, List.append_ne_nil_of_left_ne_nil hne _,
    by rw [hp, hq, List.append_assoc, List.map_append]⟩

/-- **A plain name** leads below any path. -/
theorem below_joinName (hs : IsPlain s) (base : Path) : (base.joinName s).Below base :=
  ⟨[s], List.cons_ne_nil _ _, components_joinName hs base⟩

/-- A path has the **root** among its components if it is absolute. -/
theorem root_mem_components : Component.root ∈ p.components ↔ p.isAbsolute = true := by
  have hpieces : Component.root ∉ p.counting.map componentOf := by
    rw [List.mem_map]
    rintro ⟨t, -, ht⟩
    rw [componentOf] at ht
    split at ht
    · simp at ht
    · split at ht <;> simp at ht
  rw [components, List.mem_append, or_iff_left hpieces]
  split <;> simp [*]

/-- Within a relative path **no path is absolute**. -/
theorem Within.isAbsolute (h : p.Within base) (hp : p.isAbsolute = true) :
    base.isAbsolute = true := by
  obtain ⟨names, hnames⟩ := h
  rw [← root_mem_components, hnames, List.mem_append] at hp
  rw [← root_mem_components]
  refine hp.resolve_right fun hname => ?_
  obtain ⟨name, -, hname⟩ := List.mem_map.mp hname
  simp at hname

/-- A plain name behind a path makes one that is **not empty**. -/
theorem isEmpty_joinName (hs : IsPlain s) (p : Path) : (p.joinName s).text.isEmpty = false := by
  by_contra hempty
  have hcomponents := components_joinName hs p
  rw [components_of_isEmpty (Bool.of_not_eq_false hempty)] at hcomponents
  simp at hcomponents

/-! ## Texts that lead inward -/

/-- A text leads **inward**: it is relative and never goes up. -/
structure Inward (s : String) : Prop where
  relative : (⟨s⟩ : Path).isAbsolute = false
  never_up : Component.up ∉ (⟨s⟩ : Path).components

instance (s : String) : Decidable (Inward s) :=
  decidable_of_iff ((⟨s⟩ : Path).isAbsolute = false ∧ Component.up ∉ (⟨s⟩ : Path).components)
    ⟨fun h => ⟨h.1, h.2⟩, fun h => ⟨h.relative, h.never_up⟩⟩

/-- Only two dots stand for **going up**. -/
theorem componentOf_eq_up {t : List Char} : componentOf t = .up ↔ t = ['.', '.'] := by
  rw [componentOf]
  split
  · next h => simp [h]
  · split <;> simp_all

/-- A piece that counts inside is a **name**, or goes up. -/
theorem componentOf_of_countsInside {t : List Char} (ht : countsInside t = true)
    (hup : t ≠ ['.', '.']) : componentOf t = .name (String.ofList t) := by
  have hhere : t ≠ ['.'] := by
    rintro rfl
    simp [countsInside] at ht
  rw [componentOf, if_neg hhere, if_neg hup]

/-- A relative path goes up if **two dots** are among its pieces. -/
theorem up_mem_components (hx : x.isAbsolute = false) :
    Component.up ∈ x.components ↔ ['.', '.'] ∈ x.slices := by
  have hcounting : Component.up ∈ x.components ↔ ['.', '.'] ∈ x.countingIn x.slices := by
    rw [components, hx, counting_eq, pieces_of_relative hx]
    simp [componentOf_eq_up]
  rw [hcounting]
  cases x.slices with
  | nil => rfl
  | cons t ts =>
    rw [countingIn, countsFirst, hx, List.mem_append, List.mem_cons, List.mem_filter]
    have hinside : countsInside ['.', '.'] = true := rfl
    by_cases ht : t = []
    · simp [ht, hinside]
    · simp [ht, hinside]

/-- **A relative text** leads within a path exactly if it never goes up. -/
theorem within_joinName_iff (hp : p.text.isEmpty = false) (hs : (⟨s⟩ : Path).isAbsolute = false) :
    (p.joinName s).Within p ↔ Component.up ∉ (⟨s⟩ : Path).components := by
  have hjoin := components_join hs hp
  rw [up_mem_components hs]
  constructor
  · rintro ⟨names, hnames⟩ hup
    have htail := List.append_cancel_left (hjoin.symm.trans hnames)
    have hmem : Component.up ∈ names.map Component.name := by
      rw [← htail]
      exact List.mem_map.mpr ⟨_, List.mem_filter.mpr ⟨hup, rfl⟩, rfl⟩
    obtain ⟨name, -, hname⟩ := List.mem_map.mp hmem
    simp at hname
  · intro hup
    refine ⟨((⟨s⟩ : Path).slices.filter countsInside).map String.ofList, ?_⟩
    rw [joinName, hjoin, List.map_map]
    congr 1
    refine List.map_congr_left fun t ht => ?_
    obtain ⟨hmem, hinside⟩ := List.mem_filter.mp ht
    exact componentOf_of_countsInside hinside fun heq => hup (heq ▸ hmem)

/-- Behind a plain name, what a relative text leads to is within **that name** if it is within the path
before it. -/
theorem within_of_joinName {name : String} (hn : IsPlain name)
    (hs : (⟨s⟩ : Path).isAbsolute = false) (h : ((base.joinName name).joinName s).Within base) :
    ((base.joinName name).joinName s).Within (base.joinName name) := by
  obtain ⟨names, hnames⟩ := h
  have hjoin := components_join hs (isEmpty_joinName hn base)
  rw [components_joinName hn base, List.append_assoc] at hjoin
  have htail := List.append_cancel_left (hjoin.symm.trans hnames)
  cases names with
  | nil => simp at htail
  | cons first rest =>
    rw [List.singleton_append, List.map_cons, List.cons.injEq, Component.name.injEq] at htail
    obtain ⟨rfl, -⟩ := htail
    exact ⟨rest, by rw [hnames, components_joinName hn, List.append_assoc, List.map_cons,
      List.singleton_append]⟩

/-- An inward text leads **within** a path that is not empty. -/
theorem Inward.within (hs : Inward s) (hp : p.text.isEmpty = false) : (p.joinName s).Within p :=
  (within_joinName_iff hp hs.relative).mpr hs.never_up

/-! ## Texts made of names -/

/-- A piece that counts inside is a **component**, wherever it is. -/
theorem componentOf_mem_components {t : List Char} (ht : t ∈ x.slices) (hinside : countsInside t = true) :
    componentOf t ∈ x.components := by
  have hne : t ≠ [] := by
    rintro rfl
    simp [countsInside] at hinside
  refine List.mem_append_right _ (List.mem_map_of_mem ?_)
  rw [counting_eq]
  cases hx : x.isAbsolute with
  | true =>
    rw [slices_of_absolute hx, List.mem_cons] at ht
    rw [countingIn_of_absolute hx]
    exact List.mem_filter.mpr ⟨ht.resolve_left hne, hinside⟩
  | false =>
    rw [pieces_of_relative hx]
    rcases hslices : x.slices with _ | ⟨u, us⟩
    · rw [hslices] at ht
      exact absurd ht List.not_mem_nil
    · rw [hslices, List.mem_cons] at ht
      rw [countingIn, countsFirst, hx, List.mem_append]
      rcases ht with rfl | ht
      · exact Or.inl (by simp [hne])
      · exact Or.inr (List.mem_filter.mpr ⟨ht, hinside⟩)

/-- The pieces that count of a relative path **without a dot** in front are those that count inside. -/
theorem counting_of_relative (habs : x.isAbsolute = false) (hhere : .here ∉ x.components) :
    x.counting = x.slices.filter countsInside := by
  rw [components, habs, counting_eq, pieces_of_relative habs] at hhere
  rw [counting_eq, pieces_of_relative habs]
  rcases hslices : x.slices with _ | ⟨t, ts⟩
  · rfl
  rw [hslices, countingIn, countsFirst, habs] at hhere
  rw [countingIn, countsFirst, habs, List.filter_cons]
  -- A first piece that counts only there is a dot.
  have hfirst : t ≠ [] → countsInside t = true := by
    intro hne
    by_contra hinside
    obtain rfl : t = ['.'] := by simpa [countsInside, hne] using hinside
    simp [componentOf] at hhere
  by_cases ht : t = []
  · simp [ht, countsInside]
  · simp [ht, hfirst ht]

/-- A path **made of names** is relative, never goes up, and has these names between its slashes. -/
theorem slices_of_names {names : List String} (hx : x.components = names.map .name) :
    x.isAbsolute = false ∧ ['.', '.'] ∉ x.slices ∧
      (x.slices.filter countsInside).map componentOf = names.map .name ∧
      (x.slices.filter countsInside).map String.ofList = names := by
  have habs : x.isAbsolute = false := by
    rw [← Bool.not_eq_true, ← root_mem_components, hx]
    simp
  have hup : ['.', '.'] ∉ x.slices := by
    rw [← up_mem_components habs, hx]
    simp
  have hhere : .here ∉ x.components := by
    rw [hx]
    simp
  have hcomponents : (x.slices.filter countsInside).map componentOf = names.map .name := by
    rw [← hx, components, habs, counting_of_relative habs hhere]
    rfl
  refine ⟨habs, hup, hcomponents, List.map_injective_iff.mpr (fun _ _ => Component.name.inj) ?_⟩
  rw [← hcomponents, List.map_map]
  refine List.map_congr_left fun t ht => ?_
  obtain ⟨hmem, hinside⟩ := List.mem_filter.mp ht
  exact (componentOf_of_countsInside hinside fun heq => hup (heq ▸ hmem)).symm

/-- A path made of names adds **these names** to any path it is joined to. -/
theorem components_join_of_names {names : List String} (hx : x.components = names.map .name) (p : Path) :
    (p.join x).components = p.components ++ names.map .name := by
  obtain ⟨habs, -, hcomponents, -⟩ := slices_of_names hx
  by_cases hp : p.text.isEmpty = true
  · rw [join_of_isEmpty hp, components_of_isEmpty hp, hx, List.nil_append]
  · rw [components_join habs (Bool.of_not_eq_true hp), hcomponents]

/-- A relative path **without dots** is made of names. -/
theorem exists_names_of_no_dots (hx : x.isAbsolute = false) (hdots : '.' ∉ x.text.toList) :
    ∃ names : List String, x.components = names.map .name := by
  refine ⟨x.counting.map String.ofList, ?_⟩
  rw [components, hx, List.map_map]
  refine List.map_congr_left fun t ht => ?_
  have hno : '.' ∉ t := by
    have hmem : t ∈ x.slices := pieces_of_relative hx ▸ (mem_counting ht).1
    exact fun hdot => hdots (Text.mem_of_mem_splitChar hmem hdot)
  have hhere : t ≠ ['.'] := by
    rintro rfl
    exact hno List.mem_cons_self
  have hup : t ≠ ['.', '.'] := by
    rintro rfl
    exact hno List.mem_cons_self
  rw [componentOf, if_neg hhere, if_neg hup]
  rfl

/-- A path that is joined to another is **absolute** if one of them is. -/
theorem isAbsolute_join (p x : Path) : (p.join x).isAbsolute = (x.isAbsolute || p.isAbsolute) := by
  cases hx : x.isAbsolute with
  | true => rw [join, if_pos hx, hx, Bool.true_or]
  | false => rw [(slices_join hx p).1, Bool.false_or]

/-- **An absolute text** is where it is, whatever it is joined to. -/
theorem joinName_of_absolute (hs : (⟨s⟩ : Path).isAbsolute = true) (p : Path) :
    p.joinName s = ⟨s⟩ := by rw [joinName, join, if_pos hs]

end Scaffold.Path
