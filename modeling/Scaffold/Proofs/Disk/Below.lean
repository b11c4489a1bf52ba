import Scaffold.Proofs.Disk.Alike
import Scaffold.Proofs.Path.Within

/-!
# Proofs/Disk/Below — paths below a directory

On the way to a directory there is nothing but directories (`look_of_mem_passed`).  A walk to plain
names below a path passes what leads to the path, and then stays below its place
(`stations_joinAll`), so below a directory two names have no location in common that could change.
The same is true of any relative path that never goes up (`stations_join`): a change that is confined to
a path behind such a one is confined to the path before it (`Confined.of_joinName`).
-/

namespace Scaffold.Disk

variable {d e e' : Disk} {p : Path}

/-! ## Directories -/

/-- A path is **ready**: it leads to a directory, or it is empty, and paths below it start from the
working directory. -/
def Ready (d : Disk) (p : Path) : Prop := p.text.isEmpty = true ∨ d.isDirectory p = true

/-- What is ready **stays** so as the disk grows. -/
theorem Ready.of_grows (hg : Grows d e) (h : d.Ready p) : e.Ready p :=
  h.imp_right (isDirectory_of_grows hg)

/-- A path whose directories were made is ready. -/
theorem ready_of_makeDirs (h : d.makeDirs p = (e, .ok ())) : e.Ready p := by
  cases hne : p.text.isEmpty with
  | true => exact Or.inl hne
  | false => exact Or.inr (isDirectory_of_makeDirs hne h)

/-- A walk to a directory starts at one, and passes **nothing but directories**. -/
theorem dirs_of_walkFrom : ∀ (pieces : List (List Char)) {here loc : Location} {x : Entry}
    {cs : List (String × Entry)}, d.at? here = some x →
      d.walkFrom here x pieces = .ok (.present loc (.dir cs)) →
      d.look here = some .dir ∧ ∀ l ∈ stationsFrom here pieces, d.look l = some .dir
  | [], here, loc, x, cs, hx, h => by
    obtain ⟨rfl, rfl⟩ := Spot.present.inj (Except.ok.inj h)
    exact ⟨look_eq_some.mpr ⟨_, hx, rfl⟩, fun l hl => absurd hl List.not_mem_nil⟩
  | piece :: rest, here, loc, x, cs, hx, h => by
    rw [stationsFrom_cons]
    obtain ⟨hgoes, ⟨y, hy, hw⟩ | ⟨-, -, hend⟩⟩ := walkFrom_cons hx h
    · have hrest := dirs_of_walkFrom rest hy hw
      refine ⟨?_, List.forall_mem_cons.mpr hrest⟩
      rcases refusal?_eq_none.mp hgoes with rfl | ⟨hdir, -⟩
      · exact enter_nil here ▸ hrest.1
      · exact look_eq_some.mpr ⟨x, hx, Entry.isDir_iff.mp hdir⟩
    · simp at hend

/-- **On the way to a directory** there is nothing but directories. -/
theorem look_of_mem_passed (h : d.isDirectory p = true) :
    ∀ loc ∈ d.passed p, d.look loc = some .dir := by
  obtain ⟨cs, hw⟩ := isDirectory_iff.mp h
  obtain ⟨-, x, hx, hwalk⟩ := walk_eq_ok_iff.mp hw
  exact List.forall_mem_cons.mpr (dirs_of_walkFrom _ hx hwalk)

/-! ## Names below a path -/

/-- Pieces behind others lead along from where those lead to. -/
theorem stationsFrom_append : ∀ (here : Location) (a b : List (List Char)),
    stationsFrom here (a ++ b) = stationsFrom here a ++ stationsFrom (placeFrom here a) b
  | _, [], _ => rfl
  | here, piece :: a, b => by
    rw [List.cons_append, stationsFrom_cons, stationsFrom_cons, stationsFrom_append, placeFrom_cons,
      List.cons_append]

/-- The pieces of a path with a **relative path** behind it: some before it, which lead along the path
unless that is empty, and those of the other. -/
theorem exists_slices_join {x : Path} (hx : x.isAbsolute = false) (d : Disk) (p : Path) :
    ∃ front, (p.join x).slices = front ++ x.slices ∧
      ∀ loc ∈ stationsFrom (d.origin (p.join x)) front,
        p.text.isEmpty = false ∧ loc ∈ d.stations p := by
  cases hne : p.text.isEmpty with
  | true =>
    refine ⟨[], ?_, fun loc hloc => absurd hloc List.not_mem_nil⟩
    rw [Path.join_of_isEmpty hne, List.nil_append]
  | false =>
    obtain ⟨habs, hslices⟩ := Path.slices_join hx p
    have horigin : d.origin (p.join x) = d.origin p := by rw [origin, origin, habs]
    have hstations : d.stations p = stationsFrom (d.origin p) p.slices := rfl
    rw [horigin, hstations]
    rcases hslices with hslices | ⟨front, hp, hslices⟩
    · exact ⟨p.slices, hslices, fun loc hloc => ⟨rfl, hloc⟩⟩
    · refine ⟨front, hslices, fun loc hloc => ⟨rfl, ?_⟩⟩
      rw [hp, stationsFrom_append]
      exact List.mem_append_left _ hloc

/-- A walk to a **plain name** passes what leads to the path before it, and its place. -/
theorem stations_joinName {name : String} (hn : Path.IsPlain name) (d : Disk) (p : Path) :
    ∀ loc ∈ d.stations (p.joinName name),
      (p.text.isEmpty = false ∧ loc ∈ d.stations p) ∨ loc = d.place p ++ [name] := by
  intro loc hloc
  obtain ⟨front, hjoin, hfront⟩ := exists_slices_join hn.isAbsolute d p
  have hslices : (p.joinName name).slices = front ++ [name.toList] := by
    rw [Path.joinName, hjoin, hn.slices]
  have hplace := place_joinName hn d p
  have hstations : d.stations (p.joinName name) =
      stationsFrom (d.origin (p.joinName name)) (p.joinName name).slices := rfl
  rw [place, hslices, placeFrom_append, placeFrom_cons, placeFrom_nil] at hplace
  rw [hstations, hslices, stationsFrom_append, stationsFrom_cons, hplace, List.mem_append,
    stationsFrom, List.mem_singleton] at hloc
  exact hloc.imp_left (hfront loc)

/-- Pieces that **never go up** lead along places below where they start. -/
theorem prefix_of_mem_stationsFrom : ∀ {pieces : List (List Char)} {here : Location},
    ['.', '.'] ∉ pieces → ∀ loc ∈ stationsFrom here pieces, here <+: loc
  | piece :: rest, here, hup, loc, hloc => by
    rw [List.mem_cons, not_or] at hup
    have hfirst : here <+: enter here piece := by
      have hone : ['.', '.'] ∉ [piece] := mt List.mem_singleton.mp hup.1
      rw [← placeFrom_nil (enter here piece), ← placeFrom_cons, placeFrom_of_never_up here hone]
      exact List.prefix_append _ _
    rw [stationsFrom_cons, List.mem_cons] at hloc
    rcases hloc with rfl | hloc
    · exact hfirst
    · exact hfirst.trans (prefix_of_mem_stationsFrom hup.2 loc hloc)

/-- A walk to a **relative path** that never goes up passes what leads to the path before it, and places
below its place. -/
theorem stations_join {x : Path} (hx : x.isAbsolute = false) (hup : ['.', '.'] ∉ x.slices) (d : Disk)
    (p : Path) : ∀ loc ∈ d.stations (p.join x), loc ∈ d.stations p ∨ d.place p <+: loc := by
  intro loc hloc
  obtain ⟨front, hslices, hfront⟩ := exists_slices_join hx d p
  have hplace := place_join hx hup d p
  rw [place, hslices, placeFrom_append, placeFrom_of_never_up _ hup,
    List.append_cancel_right_eq] at hplace
  have hstations : d.stations (p.join x) =
      stationsFrom (d.origin (p.join x)) (p.join x).slices := rfl
  rw [hstations, hslices, stationsFrom_append, hplace, List.mem_append] at hloc
  rcases hloc with hloc | hloc
  · exact Or.inl (hfront loc hloc).2
  · exact Or.inr (prefix_of_mem_stationsFrom hup loc hloc)

/-- A walk to plain names below a path passes what leads to the path, and places below its
place. -/
theorem stations_joinAll : ∀ {names : List String} (d : Disk) (p : Path),
    (∀ n ∈ names, Path.IsPlain n) → ∀ loc ∈ d.stations (p.joinAll names),
      loc ∈ d.stations p ∨ d.place p <+: loc
  | [], _, _, _, _, hloc => Or.inl hloc
  | n :: names, d, p, hplain, loc, hloc => by
    have hn := hplain n List.mem_cons_self
    rcases stations_joinAll d (p.joinName n) (fun m hm => hplain m (List.mem_cons_of_mem _ hm)) loc
      hloc with hmem | hbelow
    · rcases stations_joinName hn d p loc hmem with ⟨-, hmem⟩ | rfl
      · exact Or.inl hmem
      · exact Or.inr (List.prefix_append _ _)
    · rw [place_joinName hn] at hbelow
      exact Or.inr ((List.prefix_append _ _).trans hbelow)

/-- Plain names below a path lead **below its place**. -/
theorem place_joinAll : ∀ {names : List String} (d : Disk) (p : Path),
    (∀ n ∈ names, Path.IsPlain n) → d.place p <+: d.place (p.joinAll names)
  | [], _, _, _ => List.prefix_refl _
  | n :: names, d, p, hplain => by
    have hbelow := place_joinAll d (p.joinName n) fun m hm => hplain m (List.mem_cons_of_mem _ hm)
    rw [place_joinName (hplain n List.mem_cons_self)] at hbelow
    exact (List.prefix_append _ _).trans hbelow

/-- Plain names below a path **start** where it does. -/
theorem origin_joinAll : ∀ {names : List String} (d : Disk) (p : Path),
    (∀ n ∈ names, Path.IsPlain n) → d.origin (p.joinAll names) = d.origin p
  | [], _, _, _ => rfl
  | n :: names, d, p, hplain => by
    have hrest := origin_joinAll d (p.joinName n) fun m hm => hplain m (List.mem_cons_of_mem _ hm)
    have hfirst : d.origin (p.joinName n) = d.origin p := by
      rw [origin, origin, (Path.slices_joinName (hplain n List.mem_cons_self) p).1]
    exact hrest.trans hfirst

/-! ## Changes below a path -/

/-- The disk changes **only below a path**: elsewhere at most directories are new that lead to it. -/
structure Confined (d : Disk) (p : Path) (e : Disk) : Prop where
  workDir : e.workDir = d.workDir
  look : ∀ loc, e.look loc = d.look loc ∨ d.place p <+: loc ∨
    (loc ∈ d.stations p ∧ d.look loc = none ∧ e.look loc = some .dir)

theorem Confined.refl (d : Disk) (p : Path) : Confined d p d := ⟨rfl, fun _ => Or.inl rfl⟩

/-- One change below a path **after another** is one below it. -/
theorem Confined.trans (h : Confined d p e) (h' : Confined e p e') : Confined d p e' where
  workDir := h'.workDir.trans h.workDir
  look loc := by
    have hlook' := h'.look loc
    rw [place_congr h.workDir, stations_congr h.workDir] at hlook'
    rcases h.look loc with heq | hbelow | ⟨hmem, hnone, hdir⟩
    · rwa [heq] at hlook'
    · exact Or.inr (Or.inl hbelow)
    · rcases hlook' with heq' | hbelow | ⟨-, hnone', -⟩
      · exact Or.inr (Or.inr ⟨hmem, hnone, heq'.trans hdir⟩)
      · exact Or.inr (Or.inl hbelow)
      · rw [hdir] at hnone'
        simp at hnone'

/-- **Making directories** changes the disk only below the last of them. -/
theorem confined_makeDirs (d : Disk) (p : Path) : Confined d p (d.makeDirs p).1 where
  workDir := (makeDirs_addsDirs d p).workDir
  look loc := ((makeDirs_addsDirs d p).look loc).imp_right Or.inr

/-- **Writing a file** changes the disk only there. -/
theorem confined_writeFile {b : ByteArray} (h : d.writeFile p b = .ok e) : Confined d p e where
  workDir := (writeFile_sets h).workDir
  look loc := by
    by_cases hloc : loc = d.place p
    · exact Or.inr (Or.inl (hloc ▸ List.prefix_refl _))
    · exact Or.inl ((writeFile_sets h).look_of_ne hloc)

/-- What changes only below a text that leads **inward** changes only below the path before it. -/
theorem Confined.of_joinName {s : String} (hs : Path.Inward s) (h : Confined d (p.joinName s) e) :
    Confined d p e where
  workDir := h.workDir
  look loc := by
    have hup : ['.', '.'] ∉ (⟨s⟩ : Path).slices := mt (Path.up_mem_components hs.relative).mpr hs.never_up
    have hplace := place_join hs.relative hup d p
    rcases h.look loc with heq | hbelow | ⟨hmem, hnew⟩
    · exact Or.inl heq
    · rw [Path.joinName, hplace] at hbelow
      exact Or.inr (Or.inl ((List.prefix_append _ _).trans hbelow))
    · rcases stations_join hs.relative hup d p loc hmem with hmem | hbelow
      · exact Or.inr (Or.inr ⟨hmem, hnew⟩)
      · exact Or.inr (Or.inl hbelow)

end Scaffold.Disk
