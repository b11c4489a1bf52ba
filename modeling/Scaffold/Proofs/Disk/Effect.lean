import Scaffold.Proofs.Disk.Place

/-!
# Proofs/Disk/Effect — what writing does to a disk

A file that is written stands at the place of its path, and nothing else changes
(`writeFile_sets`).  A directory that is made with its ancestors adds directories along its path
alone, whether that succeeds or fails (`makeDirs_addsDirs`).  Once it has succeeded the path leads
to a directory (`isDirectory_of_makeDirs`), and goes on doing so as the disk grows
(`isDirectory_of_grows`); a file that was written is read back as long as nothing else is written
to its place (`readBytes_of_writeFile`).  A text is read where its bytes are (`readText_eq_ok`).
-/

namespace Scaffold.Disk

variable {d d' e : Disk} {p : Path} {s : Spot}

/-! ## What a walk has found -/

/-- What stands where a walk has come to. -/
theorem Stands.look {x : Entry} {loc : Location} (h : d.Stands (.present loc x)) :
    d.look loc = some x.item := by
  rw [Disk.look, h, Option.map_some]

theorem Stands.look_absent {parent : Location} {name : String}
    (h : d.Stands (.absent parent name)) : d.look (parent ++ [name]) = none := look_eq_none.mpr h.2

/-- A walk never ends in the middle of nowhere: the parent of its end is a directory. -/
theorem Stands.parent (h : d.Stands s) (hne : s.loc ≠ []) :
    ∃ cs, d.at? s.loc.dropLast = some (.dir cs) := by
  cases s with
  | absent parent name =>
    rw [Spot.loc, List.dropLast_concat]
    exact h.1
  | present loc x =>
    rcases List.eq_nil_or_concat loc with rfl | ⟨parent, name, rfl⟩
    · exact absurd rfl hne
    · rw [List.concat_eq_append] at h
      rw [Spot.loc, List.concat_eq_append, List.dropLast_concat]
      exact Entry.at?_parent (e := d.root) h

/-! ## Files -/

/-- A file that is written: its path is walked to an end that is no directory. -/
theorem writeFile_ok {b : ByteArray} (h : d.writeFile p b = .ok d') :
    wantsDir p = false ∧ d.look (d.place p) ≠ some .dir ∧
      ∃ s, d.walk p = .ok s ∧ d' = d.put s.loc (.file b) := by
  rw [writeFile] at h
  split at h
  · simp at h
  · next loc x hw =>
    obtain ⟨hs, hloc⟩ := walk_place hw
    split at h
    · simp at h
    · next hcond =>
      rw [Bool.or_eq_true, not_or, Bool.not_eq_true, Bool.not_eq_true] at hcond
      refine ⟨hcond.2, ?_, _, hw, (Except.ok.inj h).symm⟩
      rw [← hloc, Spot.loc, hs.look]
      intro heq
      rw [Entry.isDir_iff.mpr (Option.some.inj heq)] at hcond
      exact absurd hcond.1 (by simp)
  · next parent name hw =>
    obtain ⟨hs, hloc⟩ := walk_place hw
    split at h
    · simp at h
    · next hcond =>
      refine ⟨Bool.not_eq_true _ ▸ hcond, ?_, _, hw, (Except.ok.inj h).symm⟩
      rw [← hloc, Spot.loc, hs.look_absent]
      simp

/-- **Writing a file** changes what stands at the place of its path, and nothing else. -/
theorem writeFile_sets {b : ByteArray} (h : d.writeFile p b = .ok d') :
    Sets d (d.place p) (.file b) d' := by
  obtain ⟨_, hold, s, hw, rfl⟩ := writeFile_ok h
  obtain ⟨hs, hloc⟩ := walk_place hw
  rw [← hloc] at hold ⊢
  refine put_sets (.file b) hold hs.parent fun rest hrest => ?_
  obtain ⟨n, rest, rfl⟩ := List.exists_cons_of_ne_nil hrest
  exact Entry.at?_file_cons b n rest

theorem writeFile_grows {b : ByteArray} (h : d.writeFile p b = .ok d') : Grows d d' :=
  (writeFile_sets h).grows_of_file (writeFile_ok h).2.1

/-- **Before a file is written** there is nothing at its path, or a file that is read. -/
theorem before_writeFile {b : ByteArray} (h : d.writeFile p b = .ok d') :
    (d.pathExists p = false ∧ d.look (d.place p) = none) ∨
      (d.pathExists p = true ∧
        ∃ old, d.look (d.place p) = some (.file old) ∧ d.readBytes p = .ok old) := by
  obtain ⟨hwants, hold, s, hw, _⟩ := writeFile_ok h
  obtain ⟨hs, hloc⟩ := walk_place hw
  cases s with
  | absent parent name =>
    refine Or.inl ⟨?_, ?_⟩
    · rw [pathExists, stat?, stat, hw]
      rfl
    · rw [← hloc]
      exact hs.look_absent
  | present loc x =>
    obtain rfl : loc = d.place p := hloc
    cases x with
    | dir cs => exact absurd hs.look hold
    | file old =>
      have hstat : d.stat p = .ok (.file old) := by
        rw [stat, hw]
        simp [hwants]
      refine Or.inr ⟨?_, old, hs.look, ?_⟩
      · rw [pathExists, stat?, hstat]
        rfl
      · rw [readBytes, hstat]

/-! ## Directories -/

/-- A directory that is made: nothing was at the place of its path. -/
theorem makeDir_ok (h : d.makeDir p = .ok d') :
    d.look (d.place p) = none ∧ Sets d (d.place p) .dir d' ∧ ∃ s, d.walk p = .ok s := by
  rw [makeDir] at h
  split at h
  · simp at h
  · simp at h
  · next parent name hw =>
    obtain ⟨hs, hloc⟩ := walk_place hw
    have hold : d.look (d.place p) = none := by rw [← hloc, Spot.loc, hs.look_absent]
    have hnew : ∀ rest, rest ≠ [] → (Entry.dir []).at? rest = none := fun rest hrest => by
      obtain ⟨n, rest, rfl⟩ := List.exists_cons_of_ne_nil hrest
      rw [Entry.at?_dir_cons, Entry.child?, Option.bind_none]
    obtain rfl := Except.ok.inj h
    refine ⟨hold, ?_, _, hw⟩
    rw [← hloc] at hold ⊢
    exact put_sets (.dir []) (by rw [hold]; simp) hs.parent hnew

/-- One directory is a new directory on its path. -/
theorem makeDir_addsDirs (h : d.makeDir p = .ok d') : AddsDirs d (d.stations p) d' :=
  (makeDir_ok h).2.1.addsDirs (makeDir_ok h).1 (place_mem_stations d p)

/-- Making directories adds directories along the path, whatever comes of it. -/
theorem makeDirsFrom_addsDirs : ∀ (fuel : Nat) (d : Disk) (p : Path),
    AddsDirs d (d.stations p) (d.makeDirsFrom p fuel).1
  | 0, d, p => AddsDirs.refl d _
  | fuel + 1, d, p => by
    rw [makeDirsFrom]
    split
    · exact AddsDirs.refl d _
    split
    · next d₁ h => exact makeDir_addsDirs h
    · split
      · exact AddsDirs.refl d _
      next q hq =>
      have hup := makeDirsFrom_addsDirs fuel d q
      have hbefore : AddsDirs d (d.stations p) (d.makeDirsFrom q fuel).1 := by
        by_cases hempty : q.text.isEmpty = true
        · cases fuel <;> simpa [makeDirsFrom, hempty] using AddsDirs.refl d _
        · exact hup.mono (stations_of_parent? d hq (Bool.not_eq_true _ ▸ hempty))
      split
      · next d₁ e h => rw [h] at hbefore; exact hbefore
      next d₁ h =>
      rw [h] at hbefore
      split
      · next d₂ hlast =>
        have hstep := makeDir_addsDirs hlast
        rw [stations_congr hbefore.workDir] at hstep
        exact hbefore.trans hstep
      · exact hbefore
    · exact AddsDirs.refl d _

/-- **Making directories** adds directories along the path and changes nothing else. -/
theorem makeDirs_addsDirs (d : Disk) (p : Path) : AddsDirs d (d.stations p) (d.makeDirs p).1 :=
  makeDirsFrom_addsDirs _ d p

/-! ## What is there afterwards -/

/-- A path leads to a directory if that is what it leads to. -/
theorem isDirectory_eq_true : d.isDirectory p = true ↔ ∃ cs, d.stat p = .ok (.dir cs) := by
  rw [isDirectory, stat?]
  rcases d.stat p with f | ⟨b⟩ | ⟨cs⟩ <;> simp [Except.toOption, Entry.isDir]

/-- **A path leads to a directory** if a walk along it ends at one. -/
theorem isDirectory_iff : d.isDirectory p = true ↔
    ∃ cs, d.walk p = .ok (.present (d.place p) (.dir cs)) := by
  rw [isDirectory_eq_true]
  constructor
  · rintro ⟨cs, h⟩
    rw [stat] at h
    split at h
    · simp at h
    · simp at h
    · next loc x hw =>
      obtain rfl : loc = d.place p := (walk_place hw).2
      split at h
      · simp at h
      · exact ⟨cs, by rw [hw, Except.ok.inj h]⟩
  · rintro ⟨cs, hw⟩
    exact ⟨cs, by simp [stat, hw, Entry.isDir]⟩

/-- A path that leads to a directory goes on doing so **as the disk grows**. -/
theorem isDirectory_of_grows (hg : Grows d e) (h : d.isDirectory p = true) :
    e.isDirectory p = true := by
  obtain ⟨cs, hw⟩ := isDirectory_iff.mp h
  have hlook : d.look (d.place p) = some .dir := (walk_place hw).1.look
  obtain ⟨cs', hcs⟩ := at?_of_look_dir (hg.dir hlook)
  have hplace : e.place p = d.place p := place_congr hg.workDir p
  exact isDirectory_iff.mpr ⟨cs', hplace ▸ walk_of_grows hg hw hcs⟩

/-- A directory that was made is there. -/
theorem isDirectory_of_makeDir (h : d.makeDir p = .ok d') : d'.isDirectory p = true := by
  obtain ⟨hold, hsets, s, hw⟩ := makeDir_ok h
  obtain ⟨cs, hcs⟩ := at?_of_look_dir hsets.look_self
  have hplace : d'.place p = d.place p := place_congr hsets.workDir p
  exact isDirectory_iff.mpr ⟨cs, hplace ▸ walk_of_grows (hsets.grows_of_none hold) hw hcs⟩

/-- **Directories that were made are there**, the empty path apart, which is none. -/
theorem isDirectory_of_makeDirs (hne : p.text.isEmpty = false) (h : d.makeDirs p = (d', .ok ())) :
    d'.isDirectory p = true := by
  have hfallback : ∀ {x : Disk} {f : DiskFault},
      (x, if x.isDirectory p then Except.ok () else .error f) = (d', .ok ()) →
        d'.isDirectory p = true := by
    intro x f hx
    rw [Prod.mk.injEq] at hx
    obtain ⟨rfl, hx⟩ := hx
    by_contra hdir
    rw [if_neg hdir] at hx
    simp at hx
  rw [makeDirs, makeDirsFrom, if_neg (by rw [hne]; simp)] at h
  split at h
  · next d₁ hmade =>
    obtain rfl : d₁ = d' := congrArg Prod.fst h
    exact isDirectory_of_makeDir hmade
  · split at h
    · simp at h
    split at h
    · simp at h
    split at h
    · next d₂ hmade =>
      obtain rfl : d₂ = d' := congrArg Prod.fst h
      exact isDirectory_of_makeDir hmade
    · exact hfallback h
  · exact hfallback h

/-- There is **nothing to make** at the empty path. -/
theorem makeDirs_of_isEmpty (h : p.text.isEmpty = true) : d.makeDirs p = (d, .ok ()) := by
  rw [makeDirs, makeDirsFrom, if_pos h]

/-- There is **nothing to make** where a directory is. -/
theorem makeDirs_of_isDirectory (h : d.isDirectory p = true) : d.makeDirs p = (d, .ok ()) := by
  obtain ⟨cs, hw⟩ := isDirectory_iff.mp h
  have hmade : d.makeDir p = .error .alreadyExists := by rw [makeDir, hw]
  rw [makeDirs, makeDirsFrom, hmade, h]
  split <;> rfl

/-- **A file that was written is read back** on every larger disk that still holds it. -/
theorem readBytes_of_writeFile {b : ByteArray} (h : d.writeFile p b = .ok d') (hg : Grows d e)
    (hlook : e.look (d.place p) = some (.file b)) : e.readBytes p = .ok b := by
  obtain ⟨hwants, _, s, hw, _⟩ := writeFile_ok h
  have hthere := walk_of_grows hg hw (at?_of_look_file hlook)
  simp [readBytes, stat, hthere, hwants]

/-- **A file is read** if a walk along its path ends at it, and no directory is meant. -/
theorem readBytes_iff {b : ByteArray} : d.readBytes p = .ok b ↔
    wantsDir p = false ∧ d.walk p = .ok (.present (d.place p) (.file b)) := by
  constructor
  · intro h
    rw [readBytes, stat] at h
    split at h
    · simp at h
    · simp at h
    · next bytes hstat =>
      obtain rfl := Except.ok.inj h
      split at hstat
      · simp at hstat
      · simp at hstat
      · next loc x hw =>
        obtain rfl : loc = d.place p := (walk_place hw).2
        split at hstat
        · simp at hstat
        · next hcond =>
          obtain rfl := Except.ok.inj hstat
          simp only [Entry.isDir, Bool.not_false, Bool.and_true, Bool.not_eq_true] at hcond
          exact ⟨hcond, hw⟩
  · rintro ⟨hwants, hw⟩
    simp [readBytes, stat, hw, hwants]

/-- **Dots** lead from a directory to a directory. -/
theorem isDir_of_enter_dots {here : Location} {x y : Entry} {last : List Char}
    (hlast : last = ['.'] ∨ last = ['.', '.']) (hx : d.at? here = some x) (hdir : x.isDir = true)
    (hy : d.at? (enter here last) = some y) : y.isDir = true := by
  rcases hlast with rfl | rfl
  · rw [enter_here, hx] at hy
    exact Option.some.inj hy ▸ hdir
  · rw [enter_up] at hy
    rcases List.eq_nil_or_concat here with rfl | ⟨parent, name, rfl⟩
    · exact Option.some.inj (hx.symm.trans hy) ▸ hdir
    · rw [List.concat_eq_append] at hx hy
      rw [List.dropLast_concat] at hy
      obtain ⟨cs, hparent⟩ := Entry.at?_parent (e := d.root) hx
      obtain rfl := Option.some.inj (hy.symm.trans hparent)
      rfl

/-- **A walk that ends in dots** ends at a directory. -/
theorem isDir_of_walkFrom_dots {last : List Char} (hlast : last = ['.'] ∨ last = ['.', '.']) :
    ∀ {pieces : List (List Char)} {here loc : Location} {x y : Entry}, d.at? here = some x →
      d.walkFrom here x (pieces ++ [last]) = .ok (.present loc y) → y.isDir = true
  | [], here, loc, x, y, hx, h => by
    obtain ⟨hgoes, ⟨z, hz, hw⟩ | ⟨-, -, habsent⟩⟩ := walkFrom_cons hx h
    · obtain ⟨hdir, -⟩ := (refusal?_eq_none.mp hgoes).resolve_left (by rintro rfl; simp at hlast)
      obtain ⟨rfl, rfl⟩ := Spot.present.inj (Except.ok.inj hw)
      exact isDir_of_enter_dots hlast hx hdir hz
    · exact nomatch habsent
  | piece :: rest, here, loc, x, y, hx, h => by
    obtain ⟨-, ⟨z, hz, hw⟩ | ⟨-, -, habsent⟩⟩ := walkFrom_cons hx h
    · exact isDir_of_walkFrom_dots hlast hz hw
    · exact nomatch habsent

/-- **A file is read** only at a path that ends in a name. -/
theorem exists_name_of_readBytes {b : ByteArray} (h : d.readBytes p = .ok b) :
    ∃ front last, p.slices = front ++ [last] ∧ Path.countsInside last = true ∧ last ≠ ['.', '.'] := by
  obtain ⟨hwants, hw⟩ := readBytes_iff.mp h
  obtain ⟨⟨-, hne, -⟩, x, hx, hwalk⟩ := walk_eq_ok_iff.mp hw
  rcases List.eq_nil_or_concat p.slices with hnil | ⟨front, last, hslices⟩
  · exact absurd hnil (Text.splitChar_ne_nil _)
  rw [List.concat_eq_append] at hslices
  rw [hslices] at hwalk
  have hdots : ¬ (last = ['.'] ∨ last = ['.', '.']) := fun hlast =>
    nomatch isDir_of_walkFrom_dots hlast hx hwalk
  have hempty : last ≠ [] := by
    rintro rfl
    rcases Text.eq_nil_or_getLast_of_splitChar hslices with hnil | hslash
    · rw [String.toList_eq_nil_iff] at hnil
      simp [hnil] at hne
    · simp [wantsDir, hslash] at hwants
  rw [not_or] at hdots
  exact ⟨front, last, hslices, by simp [Path.countsInside, hempty, hdots.1], hdots.2⟩

/-- A file that is read is **written**, whatever is to be in it. -/
theorem exists_writeFile {old : ByteArray} (h : d.readBytes p = .ok old) (b : ByteArray) :
    ∃ d', d.writeFile p b = .ok d' := by
  obtain ⟨hwants, hw⟩ := readBytes_iff.mp h
  exact ⟨d.put (d.place p) (.file b), by rw [writeFile, hw, hwants]; rfl⟩

/-- A file goes on being read as the disk grows, whatever has come to be in it. -/
theorem exists_readBytes_of_grows {old : ByteArray} (hg : Grows d e) (h : d.readBytes p = .ok old) :
    ∃ b, e.readBytes p = .ok b := by
  obtain ⟨hwants, hw⟩ := readBytes_iff.mp h
  obtain ⟨b, hb⟩ := hg.file (walk_place hw).1.look
  have hplace : e.place p = d.place p := place_congr hg.workDir p
  exact ⟨b, readBytes_iff.mpr ⟨hwants, hplace ▸ walk_of_grows hg hw (at?_of_look_file hb)⟩⟩

/-- A file that is read goes on being read as the disk grows, while it **stands as it is**. -/
theorem readBytes_of_grows {b : ByteArray} (hg : Grows d e) (h : d.readBytes p = .ok b)
    (hlook : e.look (d.place p) = some (.file b)) : e.readBytes p = .ok b := by
  obtain ⟨hwants, hw⟩ := readBytes_iff.mp h
  have hplace : e.place p = d.place p := place_congr hg.workDir p
  exact readBytes_iff.mpr ⟨hwants, hplace ▸ walk_of_grows hg hw (at?_of_look_file hlook)⟩

/-- The text that bytes encode is the one they are the encoding of. -/
theorem fromUTF8?_eq_some {b : ByteArray} {t : String} :
    String.fromUTF8? b = some t ↔ b = t.toUTF8 := by
  rw [String.fromUTF8?, String.toUTF8_eq_toByteArray]
  constructor
  · intro h
    split at h
    · rw [← Option.some.inj h]
      rfl
    · simp at h
  · rintro rfl
    rw [dif_pos t.isValidUTF8]
    rfl

/-- **A text is read** where its bytes are. -/
theorem readText_eq_ok {t : String} : d.readText p = .ok t ↔ d.readBytes p = .ok t.toUTF8 := by
  rw [readText]
  cases d.readBytes p with
  | error f => simp
  | ok b =>
    simp only [Except.ok.injEq]
    rw [← fromUTF8?_eq_some]
    cases String.fromUTF8? b <;> simp

/-- Where a file is read there is something. -/
theorem pathExists_of_readBytes {b : ByteArray} (h : d.readBytes p = .ok b) :
    d.pathExists p = true := by
  rw [readBytes] at h
  rw [pathExists, stat?]
  split at h
  · simp at h
  · simp at h
  · next hstat => rw [hstat]; rfl

/-- A directory is something. -/
theorem pathExists_of_isDirectory (h : d.isDirectory p = true) : d.pathExists p = true := by
  obtain ⟨cs, hstat⟩ := isDirectory_eq_true.mp h
  rw [pathExists, stat?, hstat]
  rfl

end Scaffold.Disk
