import Scaffold.Disk.Basic
import Mathlib.Data.List.Basic

/-!
# Proofs/Disk/Look — what stands at every location

`Disk.look` forgets everything about a disk but what stands where: a directory, or a file with its
bytes.  Putting an entry at a location whose parent is a directory changes what stands there and,
as long as nothing was below it, nothing else (`look_put`).  Three relations say how one disk comes
from another: by one item (`Sets`), by new directories (`AddsDirs`), or keeping every directory a
directory and every file a file (`Grows`).
-/

namespace Scaffold

/-- What **stands** at a location, without what is below it. -/
inductive Item where
  | dir
  | file (bytes : ByteArray)

namespace Entry

/-- The entry without what is below it. -/
def item : Entry → Item
  | .dir _ => .dir
  | .file bytes => .file bytes

/-- A directory is an entry that stands as one. -/
theorem isDir_iff {e : Entry} : e.isDir = true ↔ e.item = .dir := by
  cases e <;> simp [isDir, item]

/-- What stands as a directory has children. -/
theorem exists_of_item_dir {e : Entry} (h : e.item = .dir) : ∃ cs, e = .dir cs := by
  cases e with
  | dir cs => exact ⟨cs, rfl⟩
  | file b => exact absurd h (by simp [item])

/-- What stands as a file is that file. -/
theorem eq_of_item_file {e : Entry} {b : ByteArray} (h : e.item = .file b) : e = .file b := by
  cases e with
  | dir cs => exact absurd h (by simp [item])
  | file b' => rw [item, Item.file.injEq] at h; rw [h]

/-! ## Children -/

/-- The child that was set is found. -/
@[simp] theorem child?_setChild_self (e : Entry) (n : String) :
    ∀ cs : List (String × Entry), child? (setChild cs n e) n = some e
  | [] => by simp [setChild, child?]
  | (m, old) :: cs => by
    by_cases h : m = n
    · simp [setChild, child?, h]
    · simp [setChild, child?, h, child?_setChild_self e n cs]

/-- Other children are left alone. -/
theorem child?_setChild_of_ne (e : Entry) {n m : String} (hne : n ≠ m) :
    ∀ cs : List (String × Entry), child? (setChild cs n e) m = child? cs m
  | [] => by simp [setChild, child?, hne]
  | (k, old) :: cs => by
    by_cases h : k = n
    · subst h; simp [setChild, child?, hne]
    · simp only [setChild, child?, if_neg h]
      rw [child?_setChild_of_ne e hne cs]

/-! ## Locations -/

@[simp] theorem at?_nil (e : Entry) : e.at? [] = some e := by cases e <;> rfl

/-- Nothing is below a file. -/
@[simp] theorem at?_file_cons (b : ByteArray) (n : String) (loc : Location) :
    (Entry.file b).at? (n :: loc) = none := rfl

theorem at?_dir_cons (cs : List (String × Entry)) (n : String) (loc : Location) :
    (Entry.dir cs).at? (n :: loc) = (child? cs n).bind (·.at? loc) := by
  cases h : child? cs n <;> simp [at?, h]

/-- A longer location is followed in two parts. -/
theorem at?_append : ∀ (a b : Location) (e : Entry), e.at? (a ++ b) = (e.at? a).bind (·.at? b)
  | [], b, e => by simp
  | n :: a, b, .file bytes => rfl
  | n :: a, b, .dir cs => by
    rw [List.cons_append, at?_dir_cons, at?_dir_cons]
    cases child? cs n with
    | none => rfl
    | some e => exact at?_append a b e

/-- The parent of whatever is there is a directory. -/
theorem at?_parent {e x : Entry} {a : Location} {n : String} (h : e.at? (a ++ [n]) = some x) :
    ∃ cs, e.at? a = some (.dir cs) := by
  rw [at?_append] at h
  obtain ⟨y, hy, hx⟩ := Option.bind_eq_some_iff.mp h
  cases y with
  | dir cs => exact ⟨cs, hy⟩
  | file b => exact absurd hx (by simp)

/-- Below a location that holds no directory there is nothing. -/
theorem at?_below {e : Entry} {a b : Location} (h : (e.at? a).map item ≠ some .dir)
    (hb : b ≠ []) : e.at? (a ++ b) = none := by
  obtain ⟨n, b, rfl⟩ := List.exists_cons_of_ne_nil hb
  rw [at?_append]
  cases hx : e.at? a with
  | none => rfl
  | some x =>
    cases x with
    | dir cs => exact absurd (by simp [hx, item]) h
    | file bytes => rfl

/-- **Putting** an entry in a directory changes what stands at its location and below. -/
theorem item_at?_put (new : Entry) : ∀ (e : Entry) (loc other : Location), loc ≠ [] →
    (∃ cs, e.at? loc.dropLast = some (.dir cs)) →
    ((e.put loc new).at? other).map item =
      if loc <+: other then (new.at? (other.drop loc.length)).map item
      else (e.at? other).map item
  | _, [], _, h, _ => absurd rfl h
  | .file b, n :: m :: loc, _, _, h => by
    obtain ⟨cs, h⟩ := h
    simp [List.dropLast] at h
  | .file b, [n], _, _, h => by
    obtain ⟨cs, h⟩ := h
    simp [List.dropLast] at h
  | .dir cs, [n], other, _, _ => by
    cases other with
    | nil => simp [put, item]
    | cons m other =>
      rw [put, at?_dir_cons]
      by_cases h : n = m
      · subst h; simp
      · simp [at?_dir_cons, child?_setChild_of_ne _ h, h]
  | .dir cs, n :: k :: loc, other, _, h => by
    obtain ⟨ds, h⟩ := h
    rw [List.dropLast_cons_cons, at?_dir_cons] at h
    obtain ⟨e, he, hd⟩ := Option.bind_eq_some_iff.mp h
    simp only [put, he]
    cases other with
    | nil => simp [item]
    | cons m other =>
      rw [at?_dir_cons]
      by_cases hm : n = m
      · subst hm
        have ih := item_at?_put new e (k :: loc) other (List.cons_ne_nil _ _) ⟨ds, hd⟩
        simp [at?_dir_cons, he, ih]
      · simp [at?_dir_cons, child?_setChild_of_ne _ hm, hm]

end Entry

namespace Disk

variable {d d' e : Disk} {loc : Location}

/-- What **stands** at a location of the disk. -/
def look (d : Disk) (loc : Location) : Option Item := (d.at? loc).map Entry.item

/-- What stands somewhere is the item of an entry. -/
theorem look_eq_some {i : Item} : d.look loc = some i ↔ ∃ x, d.at? loc = some x ∧ x.item = i :=
  Option.map_eq_some_iff

/-- Where nothing stands there is no entry. -/
theorem look_eq_none : d.look loc = none ↔ d.at? loc = none := Option.map_eq_none_iff

/-- A directory that stands somewhere has children. -/
theorem at?_of_look_dir (h : d.look loc = some .dir) : ∃ cs, d.at? loc = some (.dir cs) := by
  obtain ⟨x, hx, hi⟩ := look_eq_some.mp h
  obtain ⟨cs, rfl⟩ := Entry.exists_of_item_dir hi
  exact ⟨cs, hx⟩

/-- A file that stands somewhere is the entry there. -/
theorem at?_of_look_file {b : ByteArray} (h : d.look loc = some (.file b)) :
    d.at? loc = some (.file b) := by
  obtain ⟨x, hx, hi⟩ := look_eq_some.mp h
  rw [hx, Entry.eq_of_item_file hi]

/-! ## One item -/

/-- The disk `d'` holds an item at a location, and **elsewhere** what `d` holds. -/
structure Sets (d : Disk) (loc : Location) (i : Item) (d' : Disk) : Prop where
  workDir : d'.workDir = d.workDir
  look : ∀ other, d'.look other = if other = loc then some i else d.look other

/-- The item is there. -/
theorem Sets.look_self {i : Item} (h : Sets d loc i d') : d'.look loc = some i := by
  rw [h.look, if_pos rfl]

/-- Every other location is as it was. -/
theorem Sets.look_of_ne {i : Item} (h : Sets d loc i d') {other : Location} (hne : other ≠ loc) :
    d'.look other = d.look other := by rw [h.look, if_neg hne]

/-- **Putting** an entry with nothing below it where no directory stands sets its item. -/
theorem put_sets (new : Entry) (hold : d.look loc ≠ some .dir)
    (hparent : loc ≠ [] → ∃ cs, d.at? loc.dropLast = some (.dir cs))
    (hnew : ∀ rest, rest ≠ [] → new.at? rest = none) : Sets d loc new.item (d.put loc new) where
  workDir := rfl
  look other := by
    by_cases hloc : loc = []
    · subst hloc
      cases other with
      | nil => simp [Disk.look, Disk.at?, Disk.put, Entry.put]
      | cons n rest =>
        have hbelow : d.root.at? ([] ++ n :: rest) = none :=
          Entry.at?_below hold (List.cons_ne_nil _ _)
        rw [List.nil_append] at hbelow
        simp [Disk.look, Disk.at?, Disk.put, Entry.put, hnew _ (List.cons_ne_nil n rest), hbelow]
    · have hput := Entry.item_at?_put new d.root loc other hloc (hparent hloc)
      rw [Disk.look, Disk.at?, Disk.put, hput]
      by_cases hpre : loc <+: other
      · obtain ⟨rest, rfl⟩ := hpre
        rw [if_pos (List.prefix_append _ _), List.drop_left]
        by_cases hrest : rest = []
        · subst hrest; simp
        · have hne : loc ++ rest ≠ loc := by simpa using hrest
          have hbelow : d.at? (loc ++ rest) = none := Entry.at?_below hold hrest
          rw [hnew rest hrest, if_neg hne, Disk.look, hbelow]
      · have hne : other ≠ loc := fun h => hpre (h ▸ List.prefix_refl _)
        rw [if_neg hpre, if_neg hne]
        rfl

/-! ## Growing -/

/-- Directories stay directories and files stay files, whatever they hold: the disk **grows**. -/
structure Grows (d d' : Disk) : Prop where
  workDir : d'.workDir = d.workDir
  dir : ∀ {loc}, d.look loc = some .dir → d'.look loc = some .dir
  file : ∀ {loc b}, d.look loc = some (.file b) → ∃ b', d'.look loc = some (.file b')

theorem Grows.refl (d : Disk) : Grows d d := ⟨rfl, id, fun h => ⟨_, h⟩⟩

theorem Grows.trans (h : Grows d d') (h' : Grows d' e) : Grows d e where
  workDir := h'.workDir.trans h.workDir
  dir hd := h'.dir (h.dir hd)
  file hf := by
    obtain ⟨b, hb⟩ := h.file hf
    exact h'.file hb

/-- What is there stays there, as the kind of thing it is. -/
theorem Grows.exists_at? (h : Grows d d') {x : Entry} (hx : d.at? loc = some x) :
    ∃ x', d'.at? loc = some x' ∧ x'.isDir = x.isDir := by
  cases x with
  | dir cs =>
    obtain ⟨cs', h'⟩ := at?_of_look_dir (h.dir (by rw [look, hx]; rfl))
    exact ⟨.dir cs', h', rfl⟩
  | file b =>
    obtain ⟨b', h'⟩ := @Grows.file d d' h loc b (by rw [look, hx]; rfl)
    exact ⟨.file b', at?_of_look_file h', rfl⟩

/-- A new directory where nothing was makes a disk grow. -/
theorem Sets.grows_of_none (h : Sets d loc .dir d') (hold : d.look loc = none) : Grows d d' where
  workDir := h.workDir
  dir {other} hd := by
    rw [h.look]
    split
    · rfl
    · exact hd
  file {other b} hf := by
    have hne : other ≠ loc := fun heq => by rw [heq, hold] at hf; simp at hf
    exact ⟨b, by rw [h.look_of_ne hne, hf]⟩

/-- A file where no directory was makes a disk grow. -/
theorem Sets.grows_of_file {b : ByteArray} (h : Sets d loc (.file b) d')
    (hold : d.look loc ≠ some .dir) : Grows d d' where
  workDir := h.workDir
  dir {other} hd := by
    have hne : other ≠ loc := fun heq => hold (heq ▸ hd)
    rw [h.look_of_ne hne, hd]
  file {other b'} hf := by
    rw [h.look]
    split
    · exact ⟨b, rfl⟩
    · exact ⟨b', hf⟩

/-! ## New directories -/

/-- All that is **new** is directories, at some of the locations listed. -/
structure AddsDirs (d : Disk) (locs : List Location) (d' : Disk) : Prop where
  workDir : d'.workDir = d.workDir
  look : ∀ loc, d'.look loc = d.look loc ∨
    loc ∈ locs ∧ d.look loc = none ∧ d'.look loc = some .dir

theorem AddsDirs.refl (d : Disk) (locs : List Location) : AddsDirs d locs d :=
  ⟨rfl, fun _ => Or.inl rfl⟩

theorem AddsDirs.mono {locs locs' : List Location} (h : AddsDirs d locs d')
    (hsub : ∀ loc ∈ locs, loc ∈ locs') : AddsDirs d locs' d' where
  workDir := h.workDir
  look loc := (h.look loc).imp_right fun hn => ⟨hsub loc hn.1, hn.2⟩

theorem AddsDirs.trans {locs : List Location} (h : AddsDirs d locs d') (h' : AddsDirs d' locs e) :
    AddsDirs d locs e where
  workDir := h'.workDir.trans h.workDir
  look loc := by
    rcases h.look loc with heq | ⟨hmem, hnone, hdir⟩
    · rw [← heq]
      exact h'.look loc
    · rcases h'.look loc with heq' | ⟨_, hnone', _⟩
      · exact Or.inr ⟨hmem, hnone, heq'.trans hdir⟩
      · rw [hdir] at hnone'
        simp at hnone'

/-- A disk with new directories has grown. -/
theorem AddsDirs.grows {locs : List Location} (h : AddsDirs d locs d') : Grows d d' where
  workDir := h.workDir
  dir {loc} hd := by
    rcases h.look loc with heq | ⟨_, _, hdir⟩
    · rw [heq, hd]
    · exact hdir
  file {loc b} hf := by
    rcases h.look loc with heq | ⟨_, hnone, _⟩
    · exact ⟨b, by rw [heq, hf]⟩
    · rw [hf] at hnone
      simp at hnone

/-- One directory where nothing was is one new directory. -/
theorem Sets.addsDirs {locs : List Location} (h : Sets d loc .dir d') (hold : d.look loc = none)
    (hmem : loc ∈ locs) : AddsDirs d locs d' where
  workDir := h.workDir
  look other := by
    by_cases heq : other = loc
    · subst heq
      exact Or.inr ⟨hmem, hold, h.look_self⟩
    · exact Or.inl (h.look_of_ne heq)

end Disk

end Scaffold
