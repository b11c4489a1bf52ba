import Mathlib.Data.List.Lex
import Mathlib.Order.Bounds.Basic
import Scaffold.Proofs.Node.Found

/-!
# Proofs/Node/Positions — where the files of a tree are

A file of a tree is at a position: which of the entries leads to it, then which of those below that one, and
so on (`Tree.fileAt?`).  Where two positions part, the lesser one takes the earlier entry, so their order is
that of a depth-first traversal.  Listing goes through all files in the order of their positions
(`map_positions`, `pairwise_positions`), and what is found for a path is the content of the file at the least
position among those that stand for it (`findContent_first_file`).
-/

namespace Scaffold

namespace Tree

/-- The **file at a position**. -/
def fileAt? : List (Path × Rendered) → List Nat → Option (Path × Content)
  | _, [] => none
  | t, i :: pos =>
    match t[i]? with
    | some (p, .file content) => if pos = [] then some (p, content) else none
    | some (_, .folder children) => fileAt? children pos
    | none => none

mutual

/-- The positions of the files below an entry, **as seen from it**. -/
def positionsIn : Rendered → List (List Nat)
  | .file _ => [[]]
  | .folder children => positionsFrom 0 children

/-- The positions of the files of entries that are **counted from** a number. -/
def positionsFrom (i : Nat) : List (Path × Rendered) → List (List Nat)
  | [] => []
  | (_, e) :: t => (positionsIn e).map (i :: ·) ++ positionsFrom (i + 1) t

end

/-- The **positions** of the files of a tree, depth first. -/
def positions (t : Tree) : List (List Nat) := positionsFrom 0 t

/-- The positions of the files that **stand for a path**. -/
def standing (t : Tree) (wanted : Path) : Set (List Nat) :=
  {pos | ∃ f, fileAt? t pos = some f ∧ f.1.components = wanted.components}

variable {t : Tree} {p wanted : Path} {content : Content} {pos : List Nat}

/-! ## Files and positions -/

/-- A file behind some entries is at the position of **its entry**. -/
theorem fileAt?_file (front : Tree) (pos : List Nat) :
    fileAt? (front ++ (p, .file content) :: t) (front.length :: pos) =
      if pos = [] then some (p, content) else none := by
  rw [fileAt?, List.getElem?_append_right (Nat.le_refl _), Nat.sub_self, List.getElem?_cons_zero]

/-- Below a folder behind some entries are **the files of the folder**. -/
theorem fileAt?_folder (front children : Tree) (pos : List Nat) :
    fileAt? (front ++ (p, .folder children) :: t) (front.length :: pos) = fileAt? children pos := by
  rw [fileAt?, List.getElem?_append_right (Nat.le_refl _), Nat.sub_self, List.getElem?_cons_zero]

mutual

/-- At the positions below an entry are **the files below it**. -/
theorem map_positionsIn (front t : Tree) (p : Path) : ∀ e : Rendered,
    (positionsIn e).map (fun pos => fileAt? (front ++ (p, e) :: t) (front.length :: pos)) =
      (filesIn p e).map some
  | .file content => by
    rw [positionsIn, List.map_singleton, fileAt?_file, if_pos rfl]
    rfl
  | .folder children => by
    simp only [fileAt?_folder]
    exact map_positionsFrom [] children

/-- At the positions of entries behind others are **the files of these entries**. -/
theorem map_positionsFrom (front t : Tree) :
    (positionsFrom front.length t).map (fileAt? (front ++ t)) = (files t).map some := by
  cases t with
  | nil => rfl
  | cons entry t =>
    obtain ⟨p, e⟩ := entry
    have hrest := map_positionsFrom (front ++ [(p, e)]) t
    rw [List.length_append, List.length_singleton, List.append_assoc, List.singleton_append] at hrest
    rw [positionsFrom, List.map_append, List.map_map, hrest, files, List.map_append,
      ← map_positionsIn front t p e]
    rfl

end

/-- At the positions of a tree are **its files**. -/
theorem map_positions (t : Tree) : (positions t).map (fileAt? t) = (files t).map some :=
  map_positionsFrom [] t

mutual

/-- A file below an entry is at **one of the positions** below it. -/
theorem mem_positionsIn (front t : Tree) (p : Path) (pos : List Nat) : ∀ e : Rendered,
    (fileAt? (front ++ (p, e) :: t) (front.length :: pos)).isSome = true → pos ∈ positionsIn e
  | .file content, h => by
    rw [fileAt?_file] at h
    split_ifs at h with hpos
    · rw [hpos, positionsIn]
      exact List.mem_singleton_self _
    · exact nomatch h
  | .folder children, h => by
    rw [fileAt?_folder] at h
    cases pos with
    | nil => exact nomatch h
    | cons i pos => exact mem_positionsFrom [] children i pos (Nat.zero_le i) h

/-- A file of entries behind others is at **one of their positions**. -/
theorem mem_positionsFrom (front t : Tree) (i : Nat) (pos : List Nat) (hi : front.length ≤ i)
    (h : (fileAt? (front ++ t) (i :: pos)).isSome = true) : i :: pos ∈ positionsFrom front.length t := by
  cases t with
  | nil =>
    rw [List.append_nil, fileAt?, List.getElem?_eq_none hi] at h
    exact nomatch h
  | cons entry t =>
    obtain ⟨p, e⟩ := entry
    rw [positionsFrom, List.mem_append]
    rcases Nat.eq_or_lt_of_le hi with rfl | hi
    · exact Or.inl (List.mem_map_of_mem (mem_positionsIn front t p pos e h))
    · have hrest := mem_positionsFrom (front ++ [(p, e)]) t i pos
      rw [List.length_append, List.length_singleton, List.append_assoc, List.singleton_append] at hrest
      exact Or.inr (hrest hi h)

end

/-- The positions of a tree are those that **have a file**. -/
theorem mem_positions : pos ∈ positions t ↔ (fileAt? t pos).isSome = true := by
  constructor
  · intro hpos
    have hfile : fileAt? t pos ∈ (files t).map some := map_positions t ▸ List.mem_map_of_mem hpos
    obtain ⟨f, -, hf⟩ := List.mem_map.mp hfile
    rw [← hf, Option.isSome_some]
  · intro hfile
    cases pos with
    | nil => exact nomatch hfile
    | cons i pos => exact mem_positionsFrom [] t i pos (Nat.zero_le i) hfile

/-! ## The order of positions -/

/-- Positions of entries that are counted from a number **start with it**, or with a greater one. -/
theorem le_of_mem_positionsFrom : ∀ {i : Nat} {t : Tree}, pos ∈ positionsFrom i t →
    ∃ j rest, pos = j :: rest ∧ i ≤ j
  | i, [], h => nomatch h
  | i, (_, e) :: t, h => by
    rw [positionsFrom, List.mem_append] at h
    rcases h with h | h
    · obtain ⟨rest, -, rfl⟩ := List.mem_map.mp h
      exact ⟨i, rest, rfl, Nat.le_refl i⟩
    · obtain ⟨j, rest, rfl, hj⟩ := le_of_mem_positionsFrom h
      exact ⟨j, rest, rfl, Nat.le_of_succ_le hj⟩

mutual

/-- The positions below an entry are **in order**. -/
theorem pairwise_positionsIn : ∀ e : Rendered, (positionsIn e).Pairwise (· < ·)
  | .file _ => List.pairwise_singleton _ _
  | .folder children => pairwise_positionsFrom 0 children

/-- The positions of entries are **in order**: those of one entry, and then those of the later ones. -/
theorem pairwise_positionsFrom (i : Nat) (t : Tree) : (positionsFrom i t).Pairwise (· < ·) := by
  cases t with
  | nil => exact List.Pairwise.nil
  | cons entry t =>
    obtain ⟨p, e⟩ := entry
    rw [positionsFrom, List.pairwise_append, List.pairwise_map]
    refine ⟨?_, pairwise_positionsFrom (i + 1) t, ?_⟩
    · exact (pairwise_positionsIn e).imp fun h => List.cons_lt_cons_self.mpr h
    · intro pos hpos later hlater
      obtain ⟨rest, -, rfl⟩ := List.mem_map.mp hpos
      obtain ⟨j, rest', rfl, hj⟩ := le_of_mem_positionsFrom hlater
      exact List.cons_lt_cons_iff.mpr (Or.inl hj)

end

/-- The positions of a tree are **in order**. -/
theorem pairwise_positions (t : Tree) : (positions t).Pairwise (· < ·) := pairwise_positionsFrom 0 t

/-! ## What is found -/

/-- A path is **listed** where a file stands for it, and nowhere else. -/
theorem exists_mem_filePaths : (∃ q ∈ filePaths t, q.components = wanted.components) ↔
    (standing t wanted).Nonempty := by
  rw [filePaths_eq_map]
  constructor
  · rintro ⟨q, hq, hsame⟩
    obtain ⟨f, hf, rfl⟩ := List.mem_map.mp hq
    have hmem : some f ∈ (positions t).map (fileAt? t) := map_positions t ▸ List.mem_map_of_mem hf
    obtain ⟨pos, -, hpos⟩ := List.mem_map.mp hmem
    exact ⟨pos, f, hpos, hsame⟩
  · rintro ⟨pos, f, hf, hsame⟩
    have hpos : pos ∈ positions t := mem_positions.mpr (Option.isSome_of_eq_some hf)
    have hmem : some f ∈ (files t).map some := hf ▸ map_positions t ▸ List.mem_map_of_mem hpos
    obtain ⟨g, hg, hgf⟩ := List.mem_map.mp hmem
    exact ⟨f.1, List.mem_map_of_mem (Option.some.inj hgf ▸ hg), hsame⟩

/-- What is found is the content at **the least position** of a file that stands for the path. -/
theorem exists_isLeast_of_findContent (h : findContent wanted t = some content) :
    ∃ pos p, fileAt? t pos = some (p, content) ∧ IsLeast (standing t wanted) pos := by
  rw [findContent_eq_find?, Option.map_eq_some_iff] at h
  obtain ⟨⟨p, content⟩, hfind, rfl⟩ := h
  obtain ⟨hsame, before, after, hfiles, hbefore⟩ := List.find?_eq_some_iff_append.mp hfind
  have hmap := map_positions t
  rw [hfiles, List.map_append, List.map_cons] at hmap
  obtain ⟨front, back, hpositions, hfront, hback⟩ := List.map_eq_append_iff.mp hmap
  obtain ⟨pos, back, rfl, hpos, -⟩ := List.map_eq_cons_iff.mp hback
  refine ⟨pos, p, hpos, ⟨(p, content), hpos, Path.sameAs_iff.mp hsame⟩, ?_⟩
  rintro other ⟨f, hf, hfsame⟩
  have hother : other ∈ positions t := mem_positions.mpr (Option.isSome_of_eq_some hf)
  have hordered := pairwise_positions t
  rw [hpositions] at hother hordered
  rcases List.mem_append.mp hother with hother | hother
  · -- before the file that was found no file stands for the path
    have hmem : some f ∈ before.map some := hf ▸ hfront ▸ List.mem_map_of_mem hother
    obtain ⟨g, hg, hgf⟩ := List.mem_map.mp hmem
    have hnot := hbefore g hg
    rw [Option.some.inj hgf, Path.sameAs_iff.mpr hfsame] at hnot
    exact nomatch hnot
  · rcases List.mem_cons.mp hother with rfl | hother
    · exact le_refl _
    · have hback := (List.pairwise_append.mp hordered).2.1
      exact le_of_lt (List.rel_of_pairwise_cons hback hother)

/-- **Looking up and listing agree.**  Listing goes through the files by position, and through all of them;
something is found for a path where a path is listed that has the same components, and nowhere else; and
what is found is the content of the first file that stands for the path, the one at the least position. -/
theorem findContent_first_file (t : Tree) (wanted : Path) :
    ((positions t).Pairwise (· < ·) ∧ (∀ pos, pos ∈ positions t ↔ (fileAt? t pos).isSome = true) ∧
      (positions t).map (fun pos => (fileAt? t pos).map Prod.fst) = (filePaths t).map some) ∧
    ((findContent wanted t).isSome = true ↔ ∃ q ∈ filePaths t, q.components = wanted.components) ∧
    ∀ content, findContent wanted t = some content ↔
      ∃ pos p, fileAt? t pos = some (p, content) ∧ IsLeast (standing t wanted) pos := by
  have hsome : (findContent wanted t).isSome = true ↔ (standing t wanted).Nonempty := by
    rw [findContent_eq_find?, Option.isSome_map, List.find?_isSome, ← exists_mem_filePaths,
      filePaths_eq_map]
    simp [Path.sameAs_iff]
  refine ⟨⟨pairwise_positions t, fun pos => mem_positions, ?_⟩, ?_, fun content => ⟨?_, ?_⟩⟩
  · have hmap := congrArg (List.map (Option.map Prod.fst)) (map_positions t)
    rw [List.map_map, List.map_map] at hmap
    rw [filePaths_eq_map, List.map_map]
    exact hmap
  · rw [hsome, exists_mem_filePaths]
  · exact exists_isLeast_of_findContent
  · rintro ⟨pos, p, hpos, hleast⟩
    obtain ⟨found, hfound⟩ := Option.isSome_iff_exists.mp (hsome.mpr ⟨pos, hleast.1⟩)
    obtain ⟨pos', p', hpos', hleast'⟩ := exists_isLeast_of_findContent hfound
    rw [hleast'.unique hleast, hpos, Option.some.injEq, Prod.mk.injEq] at hpos'
    rw [hfound, hpos'.2]

/-- Where two folders hold a file at one place, **the first** is found, and both are listed. -/
example : let t : Tree := [(⟨"a"⟩, .folder [(⟨"a/x"⟩, .file (.text "first"))]),
      (⟨"a/."⟩, .folder [(⟨"a/./x"⟩, .file (.text "second"))])]
    (findContent ⟨"a//x"⟩ t).map Content.toBytes = some "first".toUTF8 ∧
      filePaths t = [⟨"a/x"⟩, ⟨"a/./x"⟩] := by decide +kernel

end Tree

end Scaffold
