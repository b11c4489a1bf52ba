import Scaffold.Proofs.Disk.Effect
import Scaffold.Proofs.Path.Within
import Scaffold.Resource.Source

/-!
# Proofs/Resource/Rooted — resources below a directory

A path made of names adds these to whatever it is joined to, in its text and on the disk
(`Path.joinAll_of_names`).  The parts of a module hold no dots, so they are made of names unless they are
absolute, and the filename of a reference is a single component, so it is a name unless it is the root or
dots.  A reference without such parts and with a name leads below every root, and only those do
(`ResourceSource.pathOf_rooted`): an absolute part takes the place of the root, whatever it is.  Dots
instead of a name lead to no file that could be read.
-/

namespace Scaffold

/-! ## Joining what is made of names -/

/-- A path **made of names** leads to them below the place of the path it is joined to. -/
theorem Disk.place_join_of_names {x : Path} {names : List String}
    (hx : x.components = names.map .name) (d : Disk) (p : Path) :
    d.place (p.join x) = d.place p ++ names := by
  obtain ⟨habs, hup, -, hnames⟩ := Path.slices_of_names hx
  rw [place_join habs hup, hnames]

namespace Path

variable {p q x : Path} {part : String} {parts : List String}

theorem joinAll_cons (p : Path) (part : String) (parts : List String) :
    p.joinAll (part :: parts) = (p.joinName part).joinAll parts := rfl

/-- Parts that are **made of names** add these to any path they are joined to, and lead to them below its
place. -/
theorem joinAll_of_names : ∀ {parts : List String},
    (∀ part ∈ parts, ∃ names : List String, (⟨part⟩ : Path).components = names.map .name) →
      ∃ names : List String, ∀ p : Path, (p.joinAll parts).components = p.components ++ names.map .name ∧
        ∀ d : Disk, d.place (p.joinAll parts) = d.place p ++ names
  | [], _ => ⟨[], fun p => ⟨(List.append_nil _).symm, fun d => (List.append_nil _).symm⟩⟩
  | part :: parts, h => by
    obtain ⟨⟨first, hfirst⟩, hrest⟩ := List.forall_mem_cons.mp h
    obtain ⟨rest, hjoin⟩ := joinAll_of_names hrest
    refine ⟨first ++ rest, fun p => ?_⟩
    obtain ⟨hcomponents, hplace⟩ := hjoin (p.joinName part)
    constructor
    · rw [joinAll_cons, hcomponents, joinName, components_join_of_names hfirst, List.append_assoc,
        List.map_append]
    · intro d
      rw [joinAll_cons, hplace, joinName, Disk.place_join_of_names hfirst, List.append_assoc]

/-- What is joined to an absolute path is an **absolute path**. -/
theorem isAbsolute_joinAll : ∀ {parts : List String} {p : Path}, p.isAbsolute = true →
    (p.joinAll parts).isAbsolute = true
  | [], _, hp => hp
  | part :: parts, p, hp => by
    rw [joinAll_cons]
    refine isAbsolute_joinAll ?_
    rw [joinName, isAbsolute_join, hp, Bool.or_true]

/-- **Behind an absolute part** it makes no difference what parts are joined to, and they lead to an
absolute path. -/
theorem joinAll_of_absolute (habs : (⟨part⟩ : Path).isAbsolute = true) :
    ∀ {parts : List String}, part ∈ parts →
      ∀ p q : Path, p.joinAll parts = q.joinAll parts ∧ (p.joinAll parts).isAbsolute = true
  | first :: parts, hpart, p, q => by
    rw [joinAll_cons, joinAll_cons]
    rcases List.mem_cons.mp hpart with rfl | hpart
    · rw [joinName_of_absolute habs, joinName_of_absolute habs]
      exact ⟨rfl, isAbsolute_joinAll habs⟩
    · exact joinAll_of_absolute habs hpart _ _

/-- What is joined to a path has its pieces **at the end**. -/
theorem exists_slices_join (p x : Path) : ∃ front, (p.join x).slices = front ++ x.slices := by
  cases hx : x.isAbsolute with
  | true => exact ⟨[], by rw [join, if_pos hx, List.nil_append]⟩
  | false =>
    rcases (slices_join hx p).2 with hslices | ⟨front, -, hslices⟩
    · exact ⟨_, hslices⟩
    · exact ⟨_, hslices⟩

end Path

/-! ## References -/

namespace Resource

variable {r : Resource} {reference : String}

/-- A single component with a name is **that name**. -/
theorem eq_name_of_fileName? {p : Path} {c : Component} {name : String} (hc : p.components = [c])
    (hname : p.fileName? = some name) : c = .name name := by
  rw [Path.fileName?, hc, List.getLast?_singleton] at hname
  split at hname
  · next s hs =>
    rw [← Option.some.inj hname]
    exact Option.some.inj hs
  · simp at hname

/-- The filename of a reference that is accepted is a **single component**. -/
theorem filename_of_read (h : read reference = .ok r) :
    ∃ c, (⟨r.filename⟩ : Path).components = [c] := by
  rw [read] at h
  split at h
  · next module filename hsplit =>
    split at h
    · exact nomatch h
    split at h
    · exact nomatch h
    · next hfilename =>
      obtain rfl := Except.ok.inj h
      simp only [isFilename, Bool.not_eq_true', Bool.not_eq_false, Bool.and_eq_true, beq_iff_eq]
        at hfilename
      exact List.length_eq_one_iff.mp hfilename.2
  · exact nomatch h

/-- **No part of the module** is an absolute path. -/
def IsRelative (r : Resource) : Prop :=
  ∀ part ∈ Text.split '.' r.module, (⟨part⟩ : Path).isAbsolute = false

/-- The parts of a module hold no dots, so they are **made of names** unless they are absolute. -/
theorem IsRelative.names (hr : r.IsRelative) : ∀ part ∈ Text.split '.' r.module,
    ∃ names : List String, (⟨part⟩ : Path).components = names.map .name := by
  intro part hpart
  refine Path.exists_names_of_no_dots (hr part hpart) ?_
  obtain ⟨piece, hpiece, rfl⟩ := List.mem_map.mp hpart
  rw [String.toList_ofList]
  exact Text.not_mem_of_mem_splitChar hpiece

/-- A resource that **stays below** the directory it is looked for in: no part of its module is an
absolute path, and its filename is a name, not the root or dots. -/
structure Confined (r : Resource) : Prop where
  relative : r.IsRelative
  named : (⟨r.filename⟩ : Path).fileName?.isSome = true

instance (r : Resource) : Decidable r.IsRelative :=
  inferInstanceAs (Decidable (∀ part ∈ Text.split '.' r.module, (⟨part⟩ : Path).isAbsolute = false))

instance (r : Resource) : Decidable r.Confined :=
  decidable_of_iff (r.IsRelative ∧ (⟨r.filename⟩ : Path).fileName?.isSome = true)
    ⟨fun h => ⟨h.1, h.2⟩, fun h => ⟨h.relative, h.named⟩⟩

/-- A path **extends a root** by names, of which the last one is the filename of the resource. -/
def Extends (r : Resource) (root p : Path) : Prop :=
  ∃ names name, (⟨r.filename⟩ : Path).fileName? = some name ∧
    p.components = root.components ++ (names ++ [name]).map .name

end Resource

namespace ResourceSource

variable {r : Resource} {reference : String}

/-! ## The path of a resource -/

/-- A resource with a name, of a module whose parts are relative, leads to names **below any root**, in
the text and on the disk. -/
theorem pathOf_of_names {name : String} (hr : r.IsRelative)
    (hname : (⟨r.filename⟩ : Path).components = [.name name]) :
    ∃ names : List String, ∀ root : Path,
      (pathOf root r).components = root.components ++ (names ++ [name]).map .name ∧
        ∀ d : Disk, d.place (pathOf root r) = d.place root ++ (names ++ [name]) := by
  obtain ⟨names, hjoin⟩ := Path.joinAll_of_names hr.names
  have hlast : (⟨r.filename⟩ : Path).components = [name].map .name := hname
  refine ⟨names, fun root => ⟨?_, fun d => ?_⟩⟩
  · rw [pathOf, Path.joinName, Path.components_join_of_names hlast, (hjoin root).1, List.append_assoc,
      List.map_append]
  · rw [pathOf, Path.joinName, Disk.place_join_of_names hlast, (hjoin root).2 d, List.append_assoc]

/-- **An absolute part** of the module takes the place of the root, whatever it is. -/
theorem pathOf_of_not_relative (hr : ¬ r.IsRelative) (root other : Path) :
    pathOf root r = pathOf other r ∧ (pathOf root r).isAbsolute = true := by
  rw [Resource.IsRelative, not_forall] at hr
  obtain ⟨part, hr⟩ := hr
  obtain ⟨hpart, habs⟩ := Classical.not_imp.mp hr
  obtain ⟨hsame, hroot⟩ :=
    Path.joinAll_of_absolute (Bool.of_not_eq_false habs) hpart root other
  rw [pathOf, pathOf, Path.joinName, Path.isAbsolute_join, hroot, Bool.or_true, hsame]
  exact ⟨rfl, rfl⟩

/-- A text that **is loaded** from a directory is that of the file which stands at the place of the
resource, whose filename is a name. -/
theorem of_load_directory {d : Disk} {root : Path} {text : String} {c : Component}
    (hfilename : (⟨r.filename⟩ : Path).components = [c])
    (h : load d r (.directory root) = .ok text) :
    (∃ name, c = .name name) ∧
      d.look (d.place (pathOf root r)) = some (.file text.toUTF8) := by
  have hread : d.readBytes (pathOf root r) = .ok text.toUTF8 := by
    unfold load at h
    dsimp only at h
    split at h
    · next hread =>
      obtain rfl := Except.ok.inj h
      exact Disk.readText_eq_ok.mp hread
    · exact nomatch h
    · exact nomatch h
  refine ⟨?_, (Disk.walk_place (Disk.readBytes_iff.mp hread).2).1.look⟩
  obtain ⟨front, last, hslices, hinside, hup⟩ := Disk.exists_name_of_readBytes hread
  obtain ⟨before, hjoin⟩ :=
    Path.exists_slices_join (root.joinAll (Text.split '.' r.module)) ⟨r.filename⟩
  have hmem : last ∈ (⟨r.filename⟩ : Path).slices := by
    rcases List.eq_nil_or_concat (⟨r.filename⟩ : Path).slices with hnil | ⟨others, own, hown⟩
    · exact absurd hnil (Text.splitChar_ne_nil _)
    · rw [List.concat_eq_append] at hown
      rw [pathOf, Path.joinName, hjoin, hown, ← List.append_assoc] at hslices
      obtain ⟨-, rfl⟩ := List.append_singleton_inj.mp hslices
      rw [hown]
      exact List.mem_append_right _ List.mem_cons_self
  have hcomponent := Path.componentOf_mem_components hmem hinside
  rw [hfilename, List.mem_singleton, Path.componentOf_of_countsInside hinside hup] at hcomponent
  exact ⟨_, hcomponent.symm⟩

/-- **Resources below their root.**  A reference that is accepted leads below every root, along names of
which the last one is its filename, if no part of its module is an absolute path and its filename is a
name; below a relative root only those do.  What is loaded from a directory is a file below it as long as
no part of the module is an absolute path.  Such a part takes the place of the root, so that the
directory makes no difference to what is loaded. -/
theorem pathOf_rooted (hread : Resource.read reference = .ok r) :
    (r.Confined → ∀ root, r.Extends root (pathOf root r)) ∧
    (∀ root, root.isAbsolute = false → r.Extends root (pathOf root r) → r.Confined) ∧
    (r.IsRelative → ∀ d root text, load d r (.directory root) = .ok text →
      ∃ names, names ≠ [] ∧ d.place (pathOf root r) = d.place root ++ names ∧
        d.look (d.place root ++ names) = some (.file text.toUTF8)) ∧
    (¬ r.IsRelative → ∀ d root other,
      load d r (.directory root) = load d r (.directory other)) := by
  obtain ⟨c, hc⟩ := Resource.filename_of_read hread
  refine ⟨?_, ?_, ?_, ?_⟩
  · rintro ⟨hr, hnamed⟩ root
    obtain ⟨name, hname⟩ := Option.isSome_iff_exists.mp hnamed
    obtain rfl := Resource.eq_name_of_fileName? hc hname
    obtain ⟨names, hnames⟩ := pathOf_of_names hr hc
    exact ⟨names, name, hname, (hnames root).1⟩
  · rintro root hroot ⟨names, name, hname, hcomponents⟩
    refine ⟨?_, Option.isSome_iff_exists.mpr ⟨name, hname⟩⟩
    by_contra hr
    have hwithin : (pathOf root r).Within root := ⟨names ++ [name], hcomponents⟩
    rw [hwithin.isAbsolute (pathOf_of_not_relative hr root root).2] at hroot
    exact nomatch hroot
  · intro hr d root text hload
    obtain ⟨⟨name, rfl⟩, hlook⟩ := of_load_directory hc hload
    obtain ⟨names, hnames⟩ := pathOf_of_names hr hc
    have hplace := (hnames root).2 d
    exact ⟨names ++ [name], List.append_ne_nil_of_right_ne_nil _ (List.cons_ne_nil _ _), hplace,
      hplace ▸ hlook⟩
  · intro hr d root other
    unfold load
    dsimp only
    rw [(pathOf_of_not_relative hr root other).1]

/-- A disk with a page below a directory, and with a file elsewhere. -/
def exposed : Disk :=
  ⟨.dir [("w", .dir [("res", .dir [("docs", .dir [("page", .file "text".toUTF8)])])]),
    ("etc", .dir [("passwd", .file "secret".toUTF8)])], ["w"]⟩

/-- The page leads below every directory, and it is loaded from below the one that has it. -/
theorem pathOf_rooted_page : (∀ root, Resource.Extends ⟨"docs", "page"⟩ root (pathOf root ⟨"docs", "page"⟩)) ∧
    load exposed ⟨"docs", "page"⟩ (.directory ⟨"res"⟩) = .ok "text" ∧
      ∃ names, names ≠ [] ∧ exposed.look (["w", "res"] ++ names) = some (.file "text".toUTF8) := by
  have hread : Resource.read "docs:page" = .ok ⟨"docs", "page"⟩ := rfl
  obtain ⟨hconfined, -, hload, -⟩ := pathOf_rooted hread
  have htext : load exposed ⟨"docs", "page"⟩ (.directory ⟨"res"⟩) = .ok "text" := rfl
  obtain ⟨names, hne, -, hlook⟩ := hload (by decide +kernel) exposed ⟨"res"⟩ "text" htext
  exact ⟨hconfined (by decide +kernel), htext, names, hne, hlook⟩

/-- A reference to **an absolute path** is accepted, and reads it through any directory. -/
theorem pathOf_rooted_escapes : ∃ r, Resource.read "/etc:passwd" = .ok r ∧
    ¬ r.Extends ⟨"res"⟩ (pathOf ⟨"res"⟩ r) ∧
    load exposed r (.directory ⟨"res"⟩) = .ok "secret" ∧
    exposed.place ⟨"res"⟩ = ["w", "res"] ∧ exposed.place (pathOf ⟨"res"⟩ r) = ["etc", "passwd"] := by
  refine ⟨⟨"/etc", "passwd"⟩, rfl, ?_, rfl, rfl, rfl⟩
  rintro ⟨names, name, -, hcomponents⟩
  have hroot : Component.root ∈ (pathOf ⟨"res"⟩ ⟨"/etc", "passwd"⟩).components := by decide +kernel
  have hnames : ∀ c ∈ (⟨"res"⟩ : Path).components, c = .name "res" := by decide +kernel
  rw [hcomponents, List.mem_append] at hroot
  rcases hroot with hroot | hroot
  · exact nomatch hnames _ hroot
  · obtain ⟨s, -, hs⟩ := List.mem_map.mp hroot
    exact nomatch hs

end ResourceSource

end Scaffold
