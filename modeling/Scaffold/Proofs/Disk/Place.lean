import Scaffold.Disk.Changes
import Scaffold.Proofs.Disk.Look
import Scaffold.Proofs.Path.Components

/-!
# Proofs/Disk/Place — where a path leads to

There are no links, so the location a path leads to is told by its text and the working directory
alone: the **place** of the path (`Disk.place`).  Each step of a walk leads to an entry, to nothing, or
to a fault that the piece and the kind of the entry decide (`refusal?`).  A walk that succeeds ends at
the place of its path (`walk_place`), and goes on succeeding as the disk grows (`walk_of_grows`).  A path extended by a name leads to that
name below the place of the path (`place_joinName`), and paths with the same components lead to the
same place (`place_of_sameAs`).
-/

namespace Scaffold

/-- The location a walk has come to. -/
def Spot.loc : Spot → Location
  | .present loc _ => loc
  | .absent parent name => parent ++ [name]

namespace Disk

variable {d d' : Disk} {p : Path} {s : Spot}

/-- Where a piece of a path leads to. -/
def enter (here : Location) (piece : List Char) : Location :=
  if piece = [] || piece = ['.'] then here
  else if piece = ['.', '.'] then here.dropLast
  else here ++ [String.ofList piece]

/-- Where pieces lead to, one after the other. -/
def placeFrom (here : Location) (pieces : List (List Char)) : Location := pieces.foldl enter here

/-- Where a path starts. -/
def origin (d : Disk) (p : Path) : Location := if p.isAbsolute then [] else d.workDir

/-- The **place** of a path. -/
def place (d : Disk) (p : Path) : Location := placeFrom (d.origin p) p.slices

@[simp] theorem placeFrom_nil (here : Location) : placeFrom here [] = here := rfl

@[simp] theorem placeFrom_cons (here : Location) (piece : List Char) (rest : List (List Char)) :
    placeFrom here (piece :: rest) = placeFrom (enter here piece) rest := rfl

theorem placeFrom_append (here : Location) (a b : List (List Char)) :
    placeFrom here (a ++ b) = placeFrom (placeFrom here a) b := List.foldl_append

@[simp] theorem enter_nil (here : Location) : enter here [] = here := by simp [enter]

@[simp] theorem enter_here (here : Location) : enter here ['.'] = here := by simp [enter]

@[simp] theorem enter_up (here : Location) : enter here ['.', '.'] = here.dropLast := by
  simp [enter]

/-- A piece that is no dots leads to the name below. -/
theorem enter_name (here : Location) {piece : List Char} (h₀ : piece ≠ []) (h₁ : piece ≠ ['.'])
    (h₂ : piece ≠ ['.', '.']) : enter here piece = here ++ [String.ofList piece] := by
  simp [enter, h₀, h₁, h₂]

/-- Empty pieces lead nowhere. -/
theorem placeFrom_of_all_empty : ∀ (pieces : List (List Char)) (here : Location),
    (pieces.all fun p => p.isEmpty) = true → placeFrom here pieces = here
  | [], _, _ => rfl
  | p :: ps, here, h => by
    rw [List.all_cons, Bool.and_eq_true, List.isEmpty_iff] at h
    rw [placeFrom_cons, h.1, enter_nil, placeFrom_of_all_empty ps here h.2]

/-- The places of pieces are the stations of a walk, entered one after the other. -/
theorem stationsFrom_cons (here : Location) (piece : List Char) (rest : List (List Char)) :
    stationsFrom here (piece :: rest) =
      enter here piece :: stationsFrom (enter here piece) rest := rfl

/-- The last station is the place. -/
theorem placeFrom_mem_stationsFrom : ∀ (pieces : List (List Char)) (here : Location),
    pieces ≠ [] → placeFrom here pieces ∈ stationsFrom here pieces
  | [p], here, _ => by simp [stationsFrom_cons]
  | p :: q :: ps, here, _ => by
    rw [placeFrom_cons, stationsFrom_cons]
    exact List.mem_cons_of_mem _ (placeFrom_mem_stationsFrom (q :: ps) _ (List.cons_ne_nil _ _))

/-- **A path passes its place.** -/
theorem place_mem_stations (d : Disk) (p : Path) : d.place p ∈ d.stations p :=
  placeFrom_mem_stationsFrom _ _ (Text.splitChar_ne_nil _)

/-- Places depend on the working directory alone. -/
theorem place_congr (h : d'.workDir = d.workDir) (p : Path) : d'.place p = d.place p := by
  rw [place, place, origin, origin, h]

theorem stations_congr (h : d'.workDir = d.workDir) (p : Path) :
    d'.stations p = d.stations p := by
  rw [stations, stations, h]

/-- Fewer pieces pass fewer stations. -/
theorem prefix_stationsFrom (here : Location) {a b : List (List Char)} (h : a <+: b) :
    stationsFrom here a <+: stationsFrom here b := by
  induction a generalizing here b with
  | nil => exact List.nil_prefix
  | cons x a ih =>
    obtain ⟨rest, rfl⟩ := h
    rw [List.cons_append, stationsFrom_cons, stationsFrom_cons]
    exact List.cons_prefix_cons.mpr ⟨rfl, ih _ (List.prefix_append a rest)⟩

/-- **A walk to the parent** passes only stations of the path. -/
theorem stations_of_parent? (d : Disk) {p q : Path} (h : p.parent? = some q)
    (hq : q.text.isEmpty = false) : ∀ loc ∈ d.stations q, loc ∈ d.stations p := by
  obtain ⟨habs, hslices⟩ := Path.slices_of_parent? h hq
  intro loc hloc
  rw [stations, habs] at hloc
  rcases hslices with hpre | ⟨hroot, htwo⟩
  · exact (prefix_stationsFrom _ hpre).subset hloc
  · have hp : d.stations p = [] :: stationsFrom [] p.pieces := by
      rw [stations, hroot, if_pos rfl, ← Path.slices, Path.slices_of_absolute hroot,
        stationsFrom_cons, enter_nil]
    rw [← Path.slices, htwo, hroot] at hloc
    have hnil : loc = [] := by simpa [stationsFrom] using hloc
    rw [hp, hnil]
    exact List.mem_cons_self

/-- Pieces that **never go up** lead to the names among them, below where they start. -/
theorem placeFrom_of_never_up : ∀ {pieces : List (List Char)} (here : Location), ['.', '.'] ∉ pieces →
    placeFrom here pieces = here ++ (pieces.filter Path.countsInside).map String.ofList
  | [], here, _ => (List.append_nil here).symm
  | piece :: rest, here, hup => by
    rw [List.mem_cons, not_or] at hup
    rw [placeFrom_cons, placeFrom_of_never_up _ hup.2, List.filter_cons]
    by_cases hinside : Path.countsInside piece = true
    · have hname : piece ≠ [] ∧ piece ≠ ['.'] := by simpa [Path.countsInside] using hinside
      rw [if_pos hinside, enter_name here hname.1 hname.2 (Ne.symm hup.1), List.append_assoc]
      rfl
    · have hnothing : piece = [] ∨ piece = ['.'] := by
        by_cases hempty : piece = []
        · exact Or.inl hempty
        · exact Or.inr (by simpa [Path.countsInside, hempty] using hinside)
      rw [if_neg hinside, enter, if_pos (by simpa using hnothing)]

/-- **A relative path** that never goes up leads to its names below the place of the path it is joined
to. -/
theorem place_join {x : Path} (hx : x.isAbsolute = false) (hup : ['.', '.'] ∉ x.slices) (d : Disk)
    (p : Path) :
    d.place (p.join x) = d.place p ++ (x.slices.filter Path.countsInside).map String.ofList := by
  obtain ⟨habs, hslices⟩ := Path.slices_join hx p
  rw [place, place, origin, origin, habs, ← placeFrom_of_never_up _ hup]
  rcases hslices with h | ⟨front, hp, h⟩
  · rw [h, placeFrom_append]
  · rw [h, hp, placeFrom_append, placeFrom_append, placeFrom_cons, enter_nil, placeFrom_nil]

/-- **A plain name** that is appended leads to that name below the place of the path. -/
theorem place_joinName {name : String} (hn : Path.IsPlain name) (d : Disk) (p : Path) :
    d.place (p.joinName name) = d.place p ++ [name] := by
  have hinside : Path.countsInside name.toList = true := by
    simp [Path.countsInside, hn.ne_nil, hn.ne_here]
  have hup : ['.', '.'] ∉ (⟨name⟩ : Path).slices := by
    rw [hn.slices, List.mem_singleton]
    exact Ne.symm hn.ne_up
  rw [Path.joinName, place_join hn.isAbsolute hup, hn.slices, List.filter_singleton, hinside, cond_true,
    List.map_singleton, String.ofList_toList]

/-! ## Components lead to the place -/

/-- Where a **component** of a path leads to. -/
def follow (here : Location) : Component → Location
  | .root => []
  | .here => here
  | .up => here.dropLast
  | .name s => here ++ [s]

/-- A piece that counts leads where its **component** does. -/
theorem follow_componentOf (here : Location) {piece : List Char} (h : piece ≠ []) :
    follow here (Path.componentOf piece) = enter here piece := by
  rw [Path.componentOf]
  by_cases h₁ : piece = ['.']
  · rw [if_pos h₁, h₁, enter_here, follow]
  · by_cases h₂ : piece = ['.', '.']
    · rw [if_neg h₁, if_pos h₂, h₂, enter_up, follow]
    · rw [if_neg h₁, if_neg h₂, enter_name here h h₁ h₂, follow]

/-- A piece that does not count leads **nowhere**. -/
theorem enter_of_not_countsInside (here : Location) {piece : List Char}
    (h : Path.countsInside piece = false) : enter here piece = here := by
  rw [enter, if_pos]
  simpa [Path.countsInside, Decidable.imp_iff_not_or] using h

/-- Pieces lead where those that **count inside** do. -/
theorem placeFrom_filter : ∀ (pieces : List (List Char)) (here : Location),
    placeFrom here (pieces.filter Path.countsInside) = placeFrom here pieces
  | [], _ => rfl
  | piece :: rest, here => by
    rw [List.filter_cons, placeFrom_cons]
    split
    · rw [placeFrom_cons, placeFrom_filter rest]
    · next hout =>
      rw [enter_of_not_countsInside here (Bool.not_eq_true _ ▸ hout), placeFrom_filter rest]

/-- The pieces of a path lead where those that **count** do. -/
theorem placeFrom_counting (p : Path) (here : Location) :
    placeFrom here p.counting = placeFrom here p.slices := by
  have hpieces : placeFrom here p.counting = placeFrom here p.pieces := by
    rw [Path.counting_eq]
    rcases p.pieces with _ | ⟨piece, rest⟩
    · rfl
    · rw [Path.countingIn, placeFrom_append, placeFrom_filter, placeFrom_cons]
      split
      · rw [placeFrom_cons, placeFrom_nil]
      · next hfirst =>
        -- What does not count as the first piece does not count further on either.
        have hout : Path.countsInside piece = false := by
          by_contra hinside
          refine hfirst ?_
          rw [Path.countsFirst]
          split
          · exact Bool.of_not_eq_false hinside
          · exact (Bool.and_eq_true_iff.mp (Bool.of_not_eq_false hinside)).1
        rw [placeFrom_nil, enter_of_not_countsInside here hout]
  rw [hpieces]
  cases habs : p.isAbsolute with
  | true => rw [Path.slices_of_absolute habs, placeFrom_cons, enter_nil]
  | false => rw [Path.pieces_of_relative habs]

/-- **The place of a path** is where its components lead, one after the other. -/
theorem place_eq_follow (d : Disk) (p : Path) :
    d.place p = p.components.foldl follow d.workDir := by
  have hpieces : ∀ here : Location, (p.counting.map Path.componentOf).foldl follow here =
      placeFrom here p.slices := fun here => by
    rw [← placeFrom_counting, placeFrom, List.foldl_map]
    exact List.foldl_ext _ _ _ fun here piece h => follow_componentOf here (Path.mem_counting h).2
  rw [place, origin, Path.components, List.foldl_append, hpieces]
  split <;> rfl

/-- Paths with the same components lead to the **same place**. -/
theorem place_of_sameAs (d : Disk) {p q : Path} (h : p.sameAs q = true) : d.place p = d.place q := by
  rw [place_eq_follow, place_eq_follow, Path.sameAs_iff.mp h]

/-! ## One step of a walk -/

/-- What a step to a name finds is below the place. -/
theorem at?_name {here : Location} {x : Entry} (hx : d.at? here = some x) (name : String) :
    d.at? (here ++ [name]) = x.at? [name] := by
  rw [at?, Entry.at?_append]
  rw [at?] at hx
  rw [hx, Option.bind_some]

/-- The parent of an entry is an entry. -/
theorem exists_at?_dropLast {here : Location} {x : Entry} (hx : d.at? here = some x) :
    ∃ y, d.at? here.dropLast = some y := by
  rcases List.eq_nil_or_concat here with rfl | ⟨parent, name, rfl⟩
  · exact ⟨x, hx⟩
  · rw [List.concat_eq_append] at hx ⊢
    rw [List.dropLast_concat]
    obtain ⟨cs, h⟩ := Entry.at?_parent (e := d.root) hx
    exact ⟨_, h⟩

/-- Why a walk does **not go on** along a piece, from a directory or from a file. -/
def refusal? (dir : Bool) (piece : List Char) : Option DiskFault :=
  if piece = [] then none
  else if !dir then some .notADirectory
  else if (String.ofList piece).utf8ByteSize > maxName then some .nameTooLong
  else none

section

variable {here : Location} {x y : Entry} {piece : List Char}

/-- A walk **goes on** along nothing, and from a directory along a name that is not too long. -/
theorem refusal?_eq_none {dir : Bool} : refusal? dir piece = none ↔
    piece = [] ∨ dir = true ∧ (String.ofList piece).utf8ByteSize ≤ maxName := by
  by_cases hpiece : piece = []
  · simp [refusal?, hpiece]
  · cases dir <;> simp [refusal?, hpiece]

/-- A piece that leads to nothing is a **name**. -/
theorem ne_of_none (hx : d.at? here = some x) (hy : d.at? (enter here piece) = none) :
    piece ≠ [] ∧ piece ≠ ['.'] ∧ piece ≠ ['.', '.'] := by
  obtain ⟨up, hup⟩ := exists_at?_dropLast hx
  refine ⟨?_, ?_, ?_⟩
  · rintro rfl
    simp [hx] at hy
  · rintro rfl
    simp [hx] at hy
  · rintro rfl
    simp [hup] at hy

/-- A piece that leads to nothing leads **below** the place. -/
theorem enter_of_none (hx : d.at? here = some x) (hy : d.at? (enter here piece) = none) :
    enter here piece = here ++ [String.ofList piece] := by
  obtain ⟨h₀, h₁, h₂⟩ := ne_of_none hx hy
  exact enter_name here h₀ h₁ h₂

/-- A walk **ends** with the reason why it does not go on. -/
theorem walkFrom_of_refusal {fault : DiskFault} (h : refusal? x.isDir piece = some fault)
    (rest : List (List Char)) : d.walkFrom here x (piece :: rest) = .error fault := by
  have hpiece : piece ≠ [] := by
    rintro rfl
    simp [refusal?] at h
  rw [refusal?, if_neg hpiece] at h
  rw [walkFrom, if_neg hpiece]
  split at h
  · next hfile => rw [if_pos hfile, Option.some.inj h]
  next hdir =>
  split at h
  · next hsize =>
    -- Dots are short, so what is too long is a name.
    have h₁ : piece ≠ ['.'] := by
      rintro rfl
      exact absurd hsize (by decide +kernel)
    have h₂ : piece ≠ ['.', '.'] := by
      rintro rfl
      exact absurd hsize (by decide +kernel)
    rw [if_neg hdir, if_neg h₁, if_neg h₂]
    dsimp only
    rw [if_pos hsize, Option.some.inj h]
  · simp at h

/-- A walk that goes on **comes to the entry** the piece leads to. -/
theorem walkFrom_of_entry (hx : d.at? here = some x) (hgoes : refusal? x.isDir piece = none)
    (hy : d.at? (enter here piece) = some y) (rest : List (List Char)) :
    d.walkFrom here x (piece :: rest) = d.walkFrom (enter here piece) y rest := by
  by_cases h₀ : piece = []
  · subst h₀
    obtain rfl : x = y := Option.some.inj (hx.symm.trans (enter_nil here ▸ hy))
    rw [walkFrom, if_pos rfl, enter_nil]
  obtain ⟨hdir, hsize⟩ := (refusal?_eq_none.mp hgoes).resolve_left h₀
  rw [walkFrom, if_neg h₀, hdir]
  by_cases h₁ : piece = ['.']
  · subst h₁
    obtain rfl : x = y := Option.some.inj (hx.symm.trans (enter_here here ▸ hy))
    simp
  by_cases h₂ : piece = ['.', '.']
  · subst h₂
    rw [enter_up] at hy
    simp [hy]
  rw [enter_name here h₀ h₁ h₂] at hy ⊢
  rw [at?_name hx] at hy
  simp only [Bool.not_true, Bool.false_eq_true, if_false, if_neg h₁, if_neg h₂,
    if_neg (Nat.not_lt.mpr hsize), hy]

/-- A walk that goes on to a name that is missing **ends in front of it**, if only a slash follows. -/
theorem walkFrom_of_none (hx : d.at? here = some x) (hgoes : refusal? x.isDir piece = none)
    (hy : d.at? (enter here piece) = none) (rest : List (List Char)) :
    d.walkFrom here x (piece :: rest) = if rest.all (fun p => p.isEmpty) then
      .ok (.absent here (String.ofList piece)) else .error .notFound := by
  obtain ⟨h₀, h₁, h₂⟩ := ne_of_none hx hy
  obtain ⟨hdir, hsize⟩ := (refusal?_eq_none.mp hgoes).resolve_left h₀
  rw [enter_name here h₀ h₁ h₂, at?_name hx] at hy
  rw [walkFrom, if_neg h₀, hdir]
  simp only [Bool.not_true, Bool.false_eq_true, if_false, if_neg h₁, if_neg h₂,
    if_neg (Nat.not_lt.mpr hsize), hy]

/-- **One step of a walk** that succeeds: it goes on, and comes to an entry or to an end where there is
none. -/
theorem walkFrom_cons {rest : List (List Char)} (hx : d.at? here = some x)
    (h : d.walkFrom here x (piece :: rest) = .ok s) : refusal? x.isDir piece = none ∧
      ((∃ y, d.at? (enter here piece) = some y ∧ d.walkFrom (enter here piece) y rest = .ok s) ∨
        (d.at? (enter here piece) = none ∧ (rest.all fun p => p.isEmpty) = true ∧
          s = .absent here (String.ofList piece))) := by
  cases hgoes : refusal? x.isDir piece with
  | some fault =>
    rw [walkFrom_of_refusal hgoes] at h
    simp at h
  | none =>
    cases hy : d.at? (enter here piece) with
    | some y => exact ⟨rfl, Or.inl ⟨y, rfl, walkFrom_of_entry hx hgoes hy rest ▸ h⟩⟩
    | none =>
      rw [walkFrom_of_none hx hgoes hy] at h
      split at h
      · next hall => exact ⟨rfl, Or.inr ⟨rfl, hall, (Except.ok.inj h).symm⟩⟩
      · simp at h

end

/-! ## Walks end at the place -/

/-- What a walk has found is **there**: the entry, or a directory without the name. -/
def Stands (d : Disk) : Spot → Prop
  | .present loc x => d.at? loc = some x
  | .absent parent name => (∃ cs, d.at? parent = some (.dir cs)) ∧ d.at? (parent ++ [name]) = none

/-- A walk along pieces ends where they lead to, and finds what stands there. -/
theorem walkFrom_ok : ∀ (pieces : List (List Char)) {here : Location} {x : Entry} {s : Spot},
    d.at? here = some x → d.walkFrom here x pieces = .ok s →
    d.Stands s ∧ s.loc = placeFrom here pieces
  | [], here, x, s, hx, h => by
    rw [walkFrom, Except.ok.injEq] at h
    subst h
    exact ⟨hx, rfl⟩
  | piece :: rest, here, x, s, hx, h => by
    rw [placeFrom_cons]
    obtain ⟨hgoes, ⟨y, hy, hw⟩ | ⟨hy, hall, rfl⟩⟩ := walkFrom_cons hx h
    · exact walkFrom_ok rest hy hw
    · have hname := enter_of_none hx hy
      obtain ⟨hdir, -⟩ := (refusal?_eq_none.mp hgoes).resolve_left (ne_of_none hx hy).1
      obtain ⟨cs, rfl⟩ := Entry.exists_of_item_dir (Entry.isDir_iff.mp hdir)
      rw [placeFrom_of_all_empty rest _ hall, hname]
      exact ⟨⟨⟨cs, hx⟩, hname ▸ hy⟩, rfl⟩

/-- Empty pieces stay where they are. -/
theorem walkFrom_of_all_empty : ∀ (pieces : List (List Char)) (here : Location) (x : Entry),
    (pieces.all fun p => p.isEmpty) = true → d.walkFrom here x pieces = .ok (.present here x)
  | [], _, _, _ => rfl
  | p :: ps, here, x, h => by
    rw [List.all_cons, Bool.and_eq_true, List.isEmpty_iff] at h
    rw [walkFrom, if_pos h.1, walkFrom_of_all_empty ps here x h.2]

/-- A walk that succeeds succeeds on a larger disk, and finds what has come to be there. -/
theorem walkFrom_of_grows (hg : Grows d d') : ∀ (pieces : List (List Char)) {here : Location}
    {x x' y : Entry} {s : Spot}, d.at? here = some x → d'.at? here = some x' →
    d.walkFrom here x pieces = .ok s → d'.at? s.loc = some y →
    d'.walkFrom here x' pieces = .ok (.present s.loc y)
  | [], here, x, x', y, s, hx, hx', h, hy => by
    rw [walkFrom, Except.ok.injEq] at h
    subst h
    obtain rfl : x' = y := Option.some.inj (hx'.symm.trans hy)
    rfl
  | piece :: rest, here, x, x', y, s, hx, hx', h, hy => by
    have hkind : x'.isDir = x.isDir := by
      obtain ⟨z, hz, hd⟩ := hg.exists_at? hx
      obtain rfl : x' = z := Option.some.inj (hx'.symm.trans hz)
      exact hd
    obtain ⟨hgoes, ⟨z, hz, hw⟩ | ⟨hz, hall, rfl⟩⟩ := walkFrom_cons hx h
    · obtain ⟨z', hz', -⟩ := hg.exists_at? hz
      rw [walkFrom_of_entry hx' (hkind ▸ hgoes) hz']
      exact walkFrom_of_grows hg rest hz hz' hw hy
    · have hname := enter_of_none hx hz
      have hthere : d'.at? (enter here piece) = some y := hname ▸ hy
      rw [walkFrom_of_entry hx' (hkind ▸ hgoes) hthere, hname]
      exact walkFrom_of_all_empty rest _ y hall

/-- A walk along a path is a walk along its pieces from its start. -/
theorem walk_eq_ok_iff : d.walk p = .ok s ↔
    (p.text.toList.contains '\x00' = false ∧ p.text.isEmpty = false ∧
      p.text.utf8ByteSize < maxPath) ∧
    ∃ x, d.at? (d.origin p) = some x ∧ d.walkFrom (d.origin p) x p.slices = .ok s := by
  rw [walk]
  split
  · next h₀ => exact ⟨fun h => by simp at h, fun h => absurd h₀ (by rw [h.1.1]; simp)⟩
  next h₀ =>
  split
  · next h₁ => exact ⟨fun h => by simp at h, fun h => absurd h₁ (by rw [h.1.2.1]; simp)⟩
  next h₁ =>
  split
  · next h₂ => exact ⟨fun h => by simp at h, fun h => absurd h.1.2.2 (Nat.not_lt.mpr h₂)⟩
  next h₂ =>
  rw [Bool.not_eq_true] at h₀ h₁
  have htext : p.text.toList.contains '\x00' = false ∧ p.text.isEmpty = false ∧
      p.text.utf8ByteSize < maxPath := ⟨h₀, h₁, Nat.not_le.mp h₂⟩
  rw [and_iff_right htext, origin, Path.slices]
  dsimp only
  cases d.at? (if p.isAbsolute then [] else d.workDir) <;> simp

/-- **A walk ends at the place of its path**, and finds what stands there. -/
theorem walk_place (h : d.walk p = .ok s) : d.Stands s ∧ s.loc = d.place p := by
  obtain ⟨_, x, hx, hw⟩ := walk_eq_ok_iff.mp h
  exact walkFrom_ok _ hx hw

/-- **A walk goes on succeeding as the disk grows.** -/
theorem walk_of_grows (hg : Grows d d') (h : d.walk p = .ok s) {x : Entry}
    (hx : d'.at? (d.place p) = some x) : d'.walk p = .ok (.present (d.place p) x) := by
  obtain ⟨htext, y, hy, hw⟩ := walk_eq_ok_iff.mp h
  obtain ⟨y', hy', _⟩ := hg.exists_at? hy
  have horigin : d'.origin p = d.origin p := by rw [origin, origin, hg.workDir]
  have hloc : s.loc = d.place p := (walk_place h).2
  have hw' := walkFrom_of_grows hg _ hy hy' hw (hloc ▸ hx)
  exact walk_eq_ok_iff.mpr ⟨htext, y', horigin ▸ hy', horigin ▸ hloc ▸ hw'⟩

end Disk

end Scaffold
