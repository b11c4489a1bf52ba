import Scaffold.Proofs.Disk.Effect

/-!
# Proofs/Disk/Alike — disks that hold the same

Two disks are **alike** if the same stands everywhere (`Disk.Alike`); they **agree** on some
locations if the same stands there (`Disk.AgreeOn`).  A walk depends on the locations it passes
alone (`walk_congr`), and so does everything that is read, made or written along a path: disks that
agree on these give the same answer, and go on agreeing (`writeFile_congr`, `makeDirs_congr`).
-/

namespace Scaffold.Disk

variable {d d' e : Disk} {p : Path}

/-! ## Alike -/

/-- The disks hold the **same everywhere**, in whatever order their directories list it. -/
structure Alike (d d' : Disk) : Prop where
  workDir : d'.workDir = d.workDir
  look : ∀ loc, d'.look loc = d.look loc

theorem Alike.refl (d : Disk) : Alike d d := ⟨rfl, fun _ => rfl⟩

theorem Alike.trans (h : Alike d d') (h' : Alike d' e) : Alike d e :=
  ⟨h'.workDir.trans h.workDir, fun loc => (h'.look loc).trans (h.look loc)⟩

/-- Disks that hold the same have grown by nothing. -/
theorem Alike.grows (h : Alike d d') : Grows d d' where
  workDir := h.workDir
  dir hd := (h.look _).trans hd
  file hf := ⟨_, (h.look _).trans hf⟩

/-- Setting what stands there already changes **nothing**. -/
theorem Sets.alike {loc : Location} {i : Item} (h : Sets d loc i d') (hi : d.look loc = some i) :
    Alike d d' where
  workDir := h.workDir
  look other := by
    rw [h.look]
    split
    · next heq => rw [heq, hi]
    · rfl

/-! ## Agreeing -/

/-- The disks **agree** on some locations. -/
structure AgreeOn (on : Location → Prop) (d d' : Disk) : Prop where
  workDir : d'.workDir = d.workDir
  look : ∀ loc, on loc → d'.look loc = d.look loc

theorem Alike.agreeOn (h : Alike d d') (on : Location → Prop) : AgreeOn on d d' :=
  ⟨h.workDir, fun loc _ => h.look loc⟩

/-- Disks that agree **everywhere** are alike. -/
theorem AgreeOn.alike (h : AgreeOn (fun _ => True) d d') : Alike d d' :=
  ⟨h.workDir, fun loc => h.look loc trivial⟩

/-- What is set in both of two disks that agree, they **go on** agreeing on. -/
theorem AgreeOn.sets {on : Location → Prop} {loc : Location} {i : Item} {e' : Disk}
    (h : AgreeOn on d d') (hs : Sets d loc i e) (hs' : Sets d' loc i e') : AgreeOn on e e' where
  workDir := by rw [hs'.workDir, hs.workDir, h.workDir]
  look other hon := by rw [hs'.look, hs.look, h.look other hon]

/-- The locations that a walk along a path **passes**, its start included. -/
def passed (d : Disk) (p : Path) : List Location := d.origin p :: d.stations p

theorem passed_congr (h : d'.workDir = d.workDir) (p : Path) : d'.passed p = d.passed p := by
  rw [passed, passed, origin, origin, stations_congr h, h]

/-- What a walk has found, **without what is below** it. -/
def sight (s : Spot) : Location × Option Item :=
  match s with
  | .present loc x => (loc, some x.item)
  | .absent parent name => (parent ++ [name], none)

/-- Entries of disks that agree on a location are of one item there. -/
theorem AgreeOn.item {on : Location → Prop} (h : AgreeOn on d d') {loc : Location} (hon : on loc)
    {x x' : Entry} (hx : d.at? loc = some x) (hx' : d'.at? loc = some x') : x'.item = x.item := by
  have hlook := h.look loc hon
  rw [Disk.look, Disk.look, hx, hx'] at hlook
  exact Option.some.inj hlook

/-- A walk along pieces depends on the locations they **lead along** alone. -/
theorem walkFrom_congr {on : Location → Prop} (h : AgreeOn on d d') :
    ∀ (pieces : List (List Char)) {here : Location} {x x' : Entry}, d.at? here = some x →
      d'.at? here = some x' → on here → (∀ loc ∈ stationsFrom here pieces, on loc) →
      (d'.walkFrom here x' pieces).map sight = (d.walkFrom here x pieces).map sight
  | [], here, x, x', hx, hx', hon, _ => by
    rw [walkFrom, walkFrom, Except.map, Except.map, sight, sight, h.item hon hx hx']
  | piece :: rest, here, x, x', hx, hx', hon, hrest => by
    rw [stationsFrom_cons] at hrest
    have hnext := hrest _ List.mem_cons_self
    have hthen : ∀ loc ∈ stationsFrom (enter here piece) rest, on loc := fun loc hloc =>
      hrest loc (List.mem_cons_of_mem _ hloc)
    have hkind : x'.isDir = x.isDir := by
      rw [Bool.eq_iff_iff, Entry.isDir_iff, Entry.isDir_iff, h.item hon hx hx']
    cases hgoes : refusal? x.isDir piece with
    | some fault => rw [walkFrom_of_refusal hgoes, walkFrom_of_refusal (hkind ▸ hgoes)]
    | none =>
      have hlook := h.look _ hnext
      rw [Disk.look, Disk.look] at hlook
      rcases hy : d.at? (enter here piece) with _ | y
      · rw [hy, Option.map_none, Option.map_eq_none_iff] at hlook
        rw [walkFrom_of_none hx hgoes hy, walkFrom_of_none hx' (hkind ▸ hgoes) hlook]
      · rw [hy] at hlook
        obtain ⟨y', hy', -⟩ := Option.map_eq_some_iff.mp hlook
        rw [walkFrom_of_entry hx hgoes hy, walkFrom_of_entry hx' (hkind ▸ hgoes) hy']
        exact walkFrom_congr h rest hy hy' hnext hthen

/-- **A walk depends on the locations it passes** alone. -/
theorem walk_congr {on : Location → Prop} (h : AgreeOn on d d')
    (hon : ∀ loc ∈ d.passed p, on loc) : (d'.walk p).map sight = (d.walk p).map sight := by
  have hstart := h.look _ (hon _ List.mem_cons_self)
  rw [Disk.look, Disk.look] at hstart
  rw [walk, walk, h.workDir]
  split
  · rfl
  split
  · rfl
  split
  · rfl
  rcases hx : d.at? (d.origin p) with _ | x
  · rw [hx, Option.map_none, Option.map_eq_none_iff] at hstart
    rw [origin] at hx hstart
    simp only [hx, hstart]
  · rw [hx] at hstart
    obtain ⟨x', hx', -⟩ := Option.map_eq_some_iff.mp hstart
    have hwalk := walkFrom_congr h p.slices hx hx' (hon _ List.mem_cons_self) fun loc hloc =>
      hon loc (List.mem_cons_of_mem _ hloc)
    rw [origin] at hx hx' hwalk
    simp only [hx, hx']
    exact hwalk

/-- A walk on either of two disks that agree on the way **ends alike**: with one fault, at entries of
one item, or in front of one name. -/
theorem walk_cases {on : Location → Prop} (h : AgreeOn on d d')
    (hon : ∀ loc ∈ d.passed p, on loc) :
    (∃ f, d.walk p = .error f ∧ d'.walk p = .error f) ∨
    (∃ x x', d.walk p = .ok (.present (d.place p) x) ∧
      d'.walk p = .ok (.present (d.place p) x') ∧ x'.item = x.item) ∨
    ∃ parent name parent' name', d.walk p = .ok (.absent parent name) ∧
      d'.walk p = .ok (.absent parent' name') ∧ parent ++ [name] = d.place p ∧
      parent' ++ [name'] = d.place p := by
  have hwalk := walk_congr h hon
  rcases hd : d.walk p with f | s <;> rcases hd' : d'.walk p with f' | s'
  · rw [hd, hd'] at hwalk
    exact Or.inl ⟨f, rfl, congrArg Except.error (Except.error.inj hwalk)⟩
  · rw [hd, hd'] at hwalk
    simp [Except.map] at hwalk
  · rw [hd, hd'] at hwalk
    simp [Except.map] at hwalk
  have hloc := (walk_place hd).2
  have hloc' := (walk_place hd').2.trans (place_congr h.workDir p)
  rw [hd, hd', Except.map, Except.map, Except.ok.injEq] at hwalk
  cases s with
  | absent parent name =>
    cases s' with
    | absent parent' name' => exact Or.inr (Or.inr ⟨_, _, _, _, rfl, rfl, hloc, hloc'⟩)
    | present loc' x' => simp [sight] at hwalk
  | present loc x =>
    cases s' with
    | absent parent' name' => simp [sight] at hwalk
    | present loc' x' =>
      obtain rfl : loc = d.place p := hloc
      obtain rfl : loc' = d.place p := hloc'
      exact Or.inr (Or.inl ⟨x, x', rfl, rfl, Option.some.inj (Prod.mk.inj hwalk).2⟩)

/-! ## The same answers -/

section

variable {on : Location → Prop}

/-- A write on either of two disks that agree on the way fails with one fault, or it puts the file at
**one place** unless a directory is wanted or found there. -/
theorem writeFile_cases (h : AgreeOn on d d') (hon : ∀ loc ∈ d.passed p, on loc) (b : ByteArray) :
    (∃ f, d.writeFile p b = .error f ∧ d'.writeFile p b = .error f) ∨
    ∃ bad : Bool,
      d.writeFile p b = (if bad then .error .isADirectory else .ok (d.put (d.place p) (.file b))) ∧
      d'.writeFile p b =
        (if bad then .error .isADirectory else .ok (d'.put (d.place p) (.file b))) := by
  rcases walk_cases h hon with ⟨f, hw, hw'⟩ | ⟨x, x', hw, hw', hitem⟩ |
    ⟨parent, name, parent', name', hw, hw', hloc, hloc'⟩
  · refine Or.inl ⟨f, ?_, ?_⟩
    · rw [writeFile, hw]
    · rw [writeFile, hw']
  · have hkind : x'.isDir = x.isDir := by
      rw [Bool.eq_iff_iff, Entry.isDir_iff, Entry.isDir_iff, hitem]
    refine Or.inr ⟨x.isDir || wantsDir p, ?_, ?_⟩
    · rw [writeFile, hw]
    · rw [writeFile, hw', ← hkind]
  · refine Or.inr ⟨wantsDir p, ?_, ?_⟩
    · rw [writeFile, hw, ← hloc]
    · rw [writeFile, hw', ← hloc']

/-- **A file is written** on both of two disks that agree on the way, or on neither. -/
theorem writeFile_congr (h : AgreeOn on d d') (hon : ∀ loc ∈ d.passed p, on loc) (b : ByteArray) :
    (∃ f, d.writeFile p b = .error f ∧ d'.writeFile p b = .error f) ∨
    ∃ e e', d.writeFile p b = .ok e ∧ d'.writeFile p b = .ok e' ∧ AgreeOn on e e' := by
  have hboth : ∀ {e e'}, d.writeFile p b = .ok e → d'.writeFile p b = .ok e' → AgreeOn on e e' :=
    fun he he' => h.sets (writeFile_sets he) (place_congr h.workDir p ▸ writeFile_sets he')
  rcases writeFile_cases h hon b with hfault | ⟨bad, he, he'⟩
  · exact Or.inl hfault
  · cases bad with
    | true => exact Or.inl ⟨_, he, he'⟩
    | false => exact Or.inr ⟨_, _, he, he', hboth he he'⟩

/-- **One directory is made** on both of two disks that agree on the way, or on neither. -/
theorem makeDir_congr (h : AgreeOn on d d') (hon : ∀ loc ∈ d.passed p, on loc) :
    (∃ f, d.makeDir p = .error f ∧ d'.makeDir p = .error f) ∨
    ∃ e e', d.makeDir p = .ok e ∧ d'.makeDir p = .ok e' ∧ AgreeOn on e e' := by
  rcases walk_cases h hon with ⟨f, hw, hw'⟩ | ⟨x, x', hw, hw', -⟩ |
    ⟨parent, name, parent', name', hw, hw', -, -⟩
  · refine Or.inl ⟨f, ?_, ?_⟩
    · rw [makeDir, hw]
    · rw [makeDir, hw']
  · refine Or.inl ⟨.alreadyExists, ?_, ?_⟩
    · rw [makeDir, hw]
    · rw [makeDir, hw']
  · have he : d.makeDir p = .ok (d.put (parent ++ [name]) (.dir [])) := by rw [makeDir, hw]
    have he' : d'.makeDir p = .ok (d'.put (parent' ++ [name']) (.dir [])) := by rw [makeDir, hw']
    refine Or.inr ⟨_, _, he, he', h.sets (makeDir_ok he).2.1 ?_⟩
    exact place_congr h.workDir p ▸ (makeDir_ok he').2.1

/-- A path leads to a **directory** on both of two disks that agree on the way, or on neither. -/
theorem isDirectory_congr (h : AgreeOn on d d') (hon : ∀ loc ∈ d.passed p, on loc) :
    d'.isDirectory p = d.isDirectory p := by
  rw [Bool.eq_iff_iff, isDirectory_iff, isDirectory_iff, place_congr h.workDir]
  rcases walk_cases h hon with ⟨f, hw, hw'⟩ | ⟨x, x', hw, hw', hitem⟩ |
    ⟨parent, name, parent', name', hw, hw', -, -⟩
  · simp [hw, hw']
  · cases x <;> cases x' <;> simp_all [Entry.item]
  · simp [hw, hw']

/-- The walk to a **parent** passes only what the walk along the path passes. -/
theorem passed_of_parent? {q : Path} (hq : p.parent? = some q) (hne : q.text.isEmpty = false) :
    ∀ loc ∈ d.passed q, loc ∈ d.passed p := by
  intro loc hloc
  rcases List.mem_cons.mp hloc with rfl | hloc
  · rw [origin, (Path.slices_of_parent? hq hne).1]
    exact List.mem_cons_self
  · exact List.mem_cons_of_mem _ (stations_of_parent? d hq hne loc hloc)

/-- Directories are made **alike** on disks that agree on the way, whatever comes of it. -/
theorem makeDirsFrom_congr : ∀ (fuel : Nat) {d d' : Disk} {p : Path}, AgreeOn on d d' →
    (p.text.isEmpty = false → ∀ loc ∈ d.passed p, on loc) →
    (d'.makeDirsFrom p fuel).2 = (d.makeDirsFrom p fuel).2 ∧
      AgreeOn on (d.makeDirsFrom p fuel).1 (d'.makeDirsFrom p fuel).1
  | 0, d, d', p, h, _ => ⟨rfl, h⟩
  | fuel + 1, d, d', p, h, hon => by
    rw [makeDirsFrom, makeDirsFrom]
    split
    · exact ⟨rfl, h⟩
    next hne =>
    replace hon := hon (Bool.not_eq_true _ ▸ hne)
    have hfallback : ∀ {x x' : Disk} (f : DiskFault), AgreeOn on x x' → x.workDir = d.workDir →
        ((if x'.isDirectory p then Except.ok () else .error f : Except DiskFault Unit) =
          if x.isDirectory p then .ok () else .error f) := fun f hx hwork => by
      rw [isDirectory_congr hx (by rwa [passed_congr hwork])]
    rcases makeDir_congr h hon with ⟨f, hm, hm'⟩ | ⟨e, e', hm, hm', hagree⟩
    · rw [hm, hm']
      cases f
      case notFound =>
        dsimp only
        split
        · exact ⟨rfl, h⟩
        next q hq =>
        obtain ⟨hsame, hup⟩ := makeDirsFrom_congr fuel h fun hne' loc hloc =>
          hon loc (passed_of_parent? hq hne' loc hloc)
        have hwork := (makeDirsFrom_addsDirs fuel d q).workDir
        rcases hx : d.makeDirsFrom q fuel with ⟨x, f | _⟩ <;>
          rcases hx' : d'.makeDirsFrom q fuel with ⟨x', f' | _⟩ <;> rw [hx, hx'] at hsame hup <;>
          rw [hx] at hwork
        · exact ⟨hsame, hup⟩
        · simp at hsame
        · simp at hsame
        rcases makeDir_congr hup (by rwa [passed_congr hwork]) with ⟨f, hm, hm'⟩ |
          ⟨e, e', hm, hm', hagree⟩
        · simp only [hm, hm']
          exact ⟨hfallback f hup hwork, hup⟩
        · simp only [hm, hm']
          exact ⟨trivial, hagree⟩
      all_goals exact ⟨hfallback _ h rfl, h⟩
    · rw [hm, hm']
      exact ⟨rfl, hagree⟩

/-- **Directories are made** alike on disks that agree on the way, whatever comes of it. -/
theorem makeDirs_congr (h : AgreeOn on d d')
    (hon : p.text.isEmpty = false → ∀ loc ∈ d.passed p, on loc) :
    (d'.makeDirs p).2 = (d.makeDirs p).2 ∧ AgreeOn on (d.makeDirs p).1 (d'.makeDirs p).1 :=
  makeDirsFrom_congr _ h hon

end

end Scaffold.Disk
