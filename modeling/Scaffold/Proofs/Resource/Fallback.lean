import Scaffold.Config
import Scaffold.Proofs.Disk.Effect

/-!
# Proofs/Resource/Fallback — a directory in front of the built-in resources

The sources of a renderer are tried in order, and the search goes on only where a source says that it
does not have the resource (`ResourceSource.loadFirst_of_missing`).  A directory says so if the disk
answers that nothing is there, and it stops the search with every other fault.  So a directory without
the file leaves the built-in resources as they are exactly if the fault is that one
(`ResourceSource.load_falls_back`).  That is the fault on a free way, along which the disk holds
directories alone (`Disk.stat_eq_notFound`); a file on the way or a directory in place of the file gives
another, and hides the built-in resource.
-/

namespace Scaffold

namespace Disk

variable {d : Disk} {p : Path}

/-! ## Free ways -/

/-- The **way along a path is free**: the system takes its text and its names, and whatever stands at
its start or at a place it passes is a directory. -/
structure Free (d : Disk) (p : Path) : Prop where
  noZero : p.text.toList.contains '\x00' = false
  short : p.text.utf8ByteSize < maxPath
  names : ∀ piece ∈ p.slices, (String.ofList piece).utf8ByteSize ≤ maxName
  dirs : ∀ loc ∈ d.origin p :: d.stations p, (d.at? loc).all Entry.isDir = true

/-- **A walk past directories** can only fail where nothing is. -/
theorem walkFrom_fault : ∀ (pieces : List (List Char)) {here : Location} {x : Entry},
    d.at? here = some x → (∀ piece ∈ pieces, (String.ofList piece).utf8ByteSize ≤ maxName) →
    (∀ loc ∈ here :: stationsFrom here pieces, (d.at? loc).all Entry.isDir = true) →
    ∀ fault, d.walkFrom here x pieces = .error fault → fault = .notFound
  | [], _, _, _, _, _, _, h => by simp [walkFrom] at h
  | piece :: rest, here, x, hx, hnames, hdirs, fault, h => by
    have hdir : x.isDir = true := by simpa [hx] using hdirs here List.mem_cons_self
    obtain ⟨hsize, hnames⟩ := List.forall_mem_cons.mp hnames
    rw [stationsFrom_cons] at hdirs
    have hrest := (List.forall_mem_cons.mp hdirs).2
    have hgoes : refusal? x.isDir piece = none := refusal?_eq_none.mpr (Or.inr ⟨hdir, hsize⟩)
    cases hy : d.at? (enter here piece) with
    | some y =>
      rw [walkFrom_of_entry hx hgoes hy] at h
      exact walkFrom_fault rest hy hnames hrest fault h
    | none =>
      rw [walkFrom_of_none hx hgoes hy] at h
      split at h
      · simp at h
      · exact (Except.error.inj h).symm

/-- On a free way a walk can only fail **where nothing is**. -/
theorem walk_fault (h : d.Free p) {fault : DiskFault} (hwalk : d.walk p = .error fault) :
    fault = .notFound := by
  rw [walk, if_neg (by rw [h.noZero]; simp)] at hwalk
  split at hwalk
  · exact (Except.error.inj hwalk).symm
  rw [if_neg (Nat.not_le.mpr h.short)] at hwalk
  dsimp only at hwalk
  split at hwalk
  · exact (Except.error.inj hwalk).symm
  · next x hx => exact walkFrom_fault p.slices hx h.names h.dirs fault hwalk

/-- **At the end of a free way** a walk finds directories alone. -/
theorem isDir_of_free (h : d.Free p) {loc : Location} {x : Entry}
    (hwalk : d.walk p = .ok (.present loc x)) : x.isDir = true := by
  obtain ⟨hstands, rfl⟩ := walk_place hwalk
  have hx : d.at? (d.place p) = some x := hstands
  simpa [hx] using h.dirs _ (List.mem_cons_of_mem _ (place_mem_stations d p))

/-- **Nothing is there** at the end of a free way that is no directory. -/
theorem stat_eq_notFound (h : d.Free p) (hplace : d.isDirectory p = false) :
    d.stat p = .error .notFound := by
  rw [isDirectory, stat?, stat] at hplace
  rw [stat]
  cases hwalk : d.walk p with
  | error fault => rw [walk_fault h hwalk]
  | ok s =>
    cases s with
    | absent parent name => rfl
    | present loc x =>
      have hdir := isDir_of_free h hwalk
      simp [hwalk, hdir, Except.toOption] at hplace

/-- **Without a file** no text is read.  The fault is that of the walk, or that there is a directory. -/
theorem exists_fault_of_readText (h : ∀ bytes, d.stat p ≠ .ok (.file bytes)) :
    ∃ fault, d.readText p = .error fault ∧ (fault = .notFound ↔ d.stat p = .error .notFound) ∧
      (d.isDirectory p = true → fault = .isADirectory) := by
  rw [isDirectory, stat?, readText, readBytes]
  cases hstat : d.stat p with
  | error fault => exact ⟨fault, rfl, (Except.error.injEq _ _).to_iff.symm, by simp [Except.toOption]⟩
  | ok x =>
    cases x with
    | dir cs => exact ⟨.isADirectory, rfl, by simp, fun _ => rfl⟩
    | file bytes => exact absurd hstat (h bytes)

end Disk

namespace ResourceSource

variable {d : Disk} {r : Resource} {root : Path} {source : ResourceSource} {fault : DiskFault}

/-! ## Sources in order -/

/-- The search **goes on** behind a source that does not have the resource. -/
theorem loadFirst_of_missing (h : load d r source = .error r.notFound) (sources : List ResourceSource) :
    loadFirst d r (source :: sources) = loadFirst d r sources := by
  rw [loadFirst, h]
  rfl

/-- **A fault of the disk** ends the search. -/
theorem loadFirst_of_fault (h : load d r source = .error (.disk fault)) (sources : List ResourceSource) :
    loadFirst d r (source :: sources) = .error (.disk fault) := by
  rw [loadFirst, h]

/-- A directory whose disk has no text **does not have the resource** if there is nothing at the path, and
hands on every other fault. -/
theorem load_of_fault (h : d.readText (pathOf root r) = .error fault) :
    load d r (.directory root) =
      .error (if fault = .notFound then r.notFound else .disk fault) := by
  unfold load
  dsimp only
  rw [h]
  cases fault <;> rfl

/-- Resources in memory are no place for **faults of the disk**. -/
theorem load_embedded_ne (d : Disk) (r : Resource) (modules : List (String × List (String × String)))
    (fault : DiskFault) : loadFirst d r [.embedded modules] ≠ .error (.disk fault) := by
  rw [loadFirst]
  unfold load
  dsimp only
  cases (lookup? modules r.module).bind (lookup? · r.filename) <;> exact nofun

/-- The resources that are set are tried **before the built-in ones**. -/
theorem loadResource_of_resources {c : Config} (hroot : c.resources = some root) (d : Disk) (r : Resource) :
    c.renderer.loadResource d r = loadFirst d r [.directory root, builtin] := by
  rw [Renderer.loadResource, Config.renderer, hroot]
  rfl

/-- **A directory without the file.**  It does not have the resource, and the built-in resources answer
as if it were not there, exactly if the disk says of the path that nothing is there; every other fault is
the answer, also that a directory has the place of the file.  The disk says so on a free way that does not
end at a directory. -/
theorem load_falls_back {c : Config} (hroot : c.resources = some root)
    (hnone : ∀ bytes, d.stat (pathOf root r) ≠ .ok (.file bytes)) :
    (load d r (.directory root) = .error r.notFound ↔ d.stat (pathOf root r) = .error .notFound) ∧
    (c.renderer.loadResource d r = Renderer.builtin.loadResource d r ↔
      d.stat (pathOf root r) = .error .notFound) ∧
    (d.stat (pathOf root r) ≠ .error .notFound →
      ∃ fault, load d r (.directory root) = .error (.disk fault) ∧
        c.renderer.loadResource d r = .error (.disk fault) ∧
        (d.isDirectory (pathOf root r) = true → fault = .isADirectory)) ∧
    (d.Free (pathOf root r) → d.isDirectory (pathOf root r) = false →
      d.stat (pathOf root r) = .error .notFound) := by
  obtain ⟨fault, hread, hmissing, hdir⟩ := Disk.exists_fault_of_readText hnone
  have hsource := loadResource_of_resources hroot d r
  have hload := load_of_fault hread
  rw [ne_eq, ← hmissing]
  by_cases hfault : fault = .notFound
  · rw [if_pos hfault] at hload
    have hback := loadFirst_of_missing hload [builtin]
    exact ⟨iff_of_true hload hfault, iff_of_true (hsource.trans hback) hfault, absurd hfault,
      fun hway hplace => hmissing.mpr (Disk.stat_eq_notFound hway hplace)⟩
  · rw [if_neg hfault] at hload
    have hstop := hsource.trans (loadFirst_of_fault hload [builtin])
    refine ⟨iff_of_false ?_ hfault, iff_of_false ?_ hfault, fun _ => ⟨fault, hload, hstop, hdir⟩,
      fun hway hplace => hmissing.mpr (Disk.stat_eq_notFound hway hplace)⟩
    · rw [hload]
      simp [Resource.notFound]
    · rw [hstop]
      exact (load_embedded_ne d r Builtin.modules fault).symm

/-- A template that is built in. -/
def usage : Resource := ⟨"kiln.recipes.python.ingredients.docs", "usage.md.template"⟩

/-- Settings with a directory for resources. -/
def layered : Config := { Config.standard with resources := some ⟨"res"⟩ }

/-- The built-in template is found **behind a directory** that is not there. -/
theorem load_falls_back_unmade :
    Resource.read "kiln.recipes.python.ingredients.docs:usage.md.template" = .ok usage ∧
    layered.renderer.loadResource (Disk.bare ["w"]) usage = .ok Builtin.docsUsage := by
  have hroot : layered.resources = some ⟨"res"⟩ := rfl
  have hnone : ∀ bytes, (Disk.bare ["w"]).stat (pathOf ⟨"res"⟩ usage) ≠ .ok (.file bytes) := nofun
  have hway : (Disk.bare ["w"]).Free (pathOf ⟨"res"⟩ usage) :=
    ⟨by decide +kernel, by decide +kernel, by decide +kernel, by decide +kernel⟩
  obtain ⟨-, hback, -, hfree⟩ := load_falls_back hroot hnone
  have hbuiltin : Renderer.builtin.loadResource (Disk.bare ["w"]) usage = .ok Builtin.docsUsage := rfl
  exact ⟨rfl, (hback.mpr (hfree hway rfl)).trans hbuiltin⟩

/-- A disk with a file **on the way** to the resources below `res`. -/
def blocked : Disk := ⟨.dir [("w", .dir [("res", .dir [("kiln", .file "x".toUTF8)])])], ["w"]⟩

/-- A file on the way **hides** a template that is built in, without being the resource. -/
theorem load_falls_back_blocked :
    Resource.read "kiln.recipes.python.ingredients.docs:usage.md.template" = .ok usage ∧
    layered.resources = some ⟨"res"⟩ ∧
    (∀ bytes, blocked.stat (pathOf ⟨"res"⟩ usage) ≠ .ok (.file bytes)) ∧
    load blocked usage (.directory ⟨"res"⟩) = .error (.disk .notADirectory) ∧
    layered.renderer.loadResource blocked usage = .error (.disk .notADirectory) ∧
    Renderer.builtin.loadResource blocked usage = .ok Builtin.docsUsage :=
  ⟨rfl, rfl, nofun, rfl, rfl, rfl⟩

end ResourceSource

end Scaffold
