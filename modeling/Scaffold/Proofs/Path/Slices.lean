import Scaffold.Path.Basic
import Scaffold.Proofs.Text.Split

/-!
# Proofs/Path/Slices — the pieces a path is walked by

The slices of a path are all pieces between its slashes, empty ones and dots included.  The parent
of a path has its first slices (`slices_of_parent?`), a relative path that is appended adds its own
(`slices_join`), and a name one more (`slices_joinName`).
-/

namespace Scaffold

namespace Path

variable {p q : Path}

/-- All pieces between slashes, as a walk takes them. -/
def slices (p : Path) : List (List Char) := Text.splitChar '/' p.text.toList

/-- Trimming drops pieces at the end alone. -/
theorem prefix_trimEnd (p : Path) : ∀ ps : List (List Char), p.trimEnd ps <+: ps
  | [] => List.prefix_refl _
  | q :: qs => by
    have hdrop : (qs.reverse.dropWhile fun x => !countsInside x).reverse <+: qs := by
      rw [← List.reverse_suffix, List.reverse_reverse]
      exact List.dropWhile_suffix _
    rw [trimEnd]
    split
    · split
      · exact ⟨qs, rfl⟩
      · exact List.nil_prefix
    · exact List.cons_prefix_cons.mpr ⟨rfl, hdrop⟩

/-- The pieces of a relative path are all of its slices. -/
theorem pieces_of_relative (h : p.isAbsolute = false) : p.pieces = p.slices := by
  simp [pieces, slices, h]

/-- An absolute path has an empty slice before its pieces. -/
theorem slices_of_absolute (h : p.isAbsolute = true) : p.slices = [] :: p.pieces := by
  have hhead : p.text.toList.head? = some '/' := by simpa [isAbsolute] using h
  obtain ⟨cs, hcs⟩ := List.head?_eq_some_iff.mp hhead
  rw [pieces, slices, if_pos h, hcs, Text.splitChar_cons_self, List.tail_cons]

/-- No piece holds a slash. -/
theorem not_mem_of_mem_pieces {piece : List Char} (h : piece ∈ p.pieces) : '/' ∉ piece := by
  cases habs : p.isAbsolute with
  | false => exact Text.not_mem_of_mem_splitChar (pieces_of_relative habs ▸ h)
  | true =>
    have hmem : piece ∈ p.slices := by
      rw [slices_of_absolute habs]
      exact List.mem_cons_of_mem _ h
    exact Text.not_mem_of_mem_splitChar hmem

/-- The parent is written with some of the first pieces. -/
theorem parent?_eq_some (h : p.parent? = some q) :
    ∃ ts, ts <+: p.pieces ∧ q = p.ofPieces ts := by
  rw [parent?] at h
  split at h
  · simp at h
  · next ps hps =>
    refine ⟨p.trimEnd (p.trimEnd p.pieces).dropLast, ?_, (Option.some.inj h).symm⟩
    exact ((prefix_trimEnd p _).trans (List.dropLast_prefix _)).trans (prefix_trimEnd p _)

/-- Pieces of an absolute path are written out **behind a slash**. -/
theorem pieces_ofPieces_of_absolute (habs : p.isAbsolute = true) (ts : List (List Char)) :
    (p.ofPieces ts).isAbsolute = true ∧
      (p.ofPieces ts).pieces = Text.splitChar '/' (Text.joinWith ['/'] ts) := by
  have hsame : (p.ofPieces ts).isAbsolute = true := by
    rw [isAbsolute, ofPieces, habs]
    simp
  refine ⟨hsame, ?_⟩
  rw [pieces, if_pos hsame, ofPieces, habs, if_pos rfl, String.toList_ofList,
    List.singleton_append, Text.splitChar_cons_self, List.tail_cons]

/-- The first pieces of a relative path are written out as a **relative path**. -/
theorem isAbsolute_ofPieces_of_relative (habs : p.isAbsolute = false) {t : List Char}
    {ts : List (List Char)} (hts : t :: ts <+: p.pieces)
    (hne : (p.ofPieces (t :: ts)).text.isEmpty = false) :
    (p.ofPieces (t :: ts)).isAbsolute = false := by
  have htext : (p.ofPieces (t :: ts)).text.toList = Text.joinWith ['/'] (t :: ts) := by
    simp [ofPieces, habs]
  rw [isAbsolute, htext, decide_eq_false_iff_not]
  cases t with
  | cons c cs =>
    have hsep := not_mem_of_mem_pieces (hts.subset List.mem_cons_self)
    have hc : c ≠ '/' := fun heq => hsep (heq ▸ List.mem_cons_self)
    cases ts <;> simp [Text.joinWith, hc]
  | nil =>
    -- A slash in front would come from an empty first piece, which only the empty text has.
    obtain ⟨rest, hrest⟩ := hts
    rw [pieces_of_relative habs, List.cons_append] at hrest
    rcases Text.eq_nil_or_head_of_splitChar hrest.symm with hnil | hhead
    · rw [slices, hnil, Text.splitChar, List.cons.injEq, List.append_eq_nil_iff] at hrest
      obtain rfl := hrest.2.1
      simp [ofPieces, habs, Text.joinWith] at hne
    · simp [isAbsolute, hhead] at habs

/-- **Some of the first pieces** written out are these pieces again, and the root has an empty one.
The empty path stands for no pieces. -/
theorem pieces_ofPieces {ts : List (List Char)} (hts : ts <+: p.pieces)
    (hne : (p.ofPieces ts).text.isEmpty = false) :
    (p.ofPieces ts).isAbsolute = p.isAbsolute ∧ ((p.ofPieces ts).pieces = ts ∨
      ts = [] ∧ p.isAbsolute = true ∧ (p.ofPieces ts).pieces = [[]]) := by
  have hsep : ∀ t ∈ ts, '/' ∉ t := fun t ht => not_mem_of_mem_pieces (hts.subset ht)
  cases habs : p.isAbsolute with
  | true =>
    obtain ⟨hsame, hpieces⟩ := pieces_ofPieces_of_absolute habs ts
    refine ⟨hsame, ?_⟩
    by_cases hnil : ts = []
    · subst hnil
      exact Or.inr ⟨rfl, rfl, hpieces⟩
    · exact Or.inl (by rw [hpieces, Text.splitChar_joinWith hnil hsep])
  | false =>
    have htext : (p.ofPieces ts).text.toList = Text.joinWith ['/'] ts := by
      simp [ofPieces, habs]
    cases ts with
    | nil => simp [ofPieces, habs, Text.joinWith] at hne
    | cons t ts =>
      have hsame := isAbsolute_ofPieces_of_relative habs hts hne
      refine ⟨hsame, Or.inl ?_⟩
      rw [pieces_of_relative hsame, slices, htext,
        Text.splitChar_joinWith (List.cons_ne_nil _ _) hsep]

/-- **The parent of a path** has its first slices, or is the root. -/
theorem slices_of_parent? (h : p.parent? = some q) (hq : q.text.isEmpty = false) :
    q.isAbsolute = p.isAbsolute ∧
      (q.slices <+: p.slices ∨ p.isAbsolute = true ∧ q.slices = [[], []]) := by
  obtain ⟨ts, hts, rfl⟩ := parent?_eq_some h
  obtain ⟨hsame, hpieces⟩ := pieces_ofPieces hts hq
  refine ⟨hsame, ?_⟩
  cases habs : p.isAbsolute with
  | true =>
    rw [slices_of_absolute (hsame.trans habs), slices_of_absolute habs]
    rcases hpieces with hpieces | ⟨-, -, hpieces⟩
    · exact Or.inl (List.cons_prefix_cons.mpr ⟨rfl, by rwa [hpieces]⟩)
    · exact Or.inr ⟨rfl, by rw [hpieces]⟩
  | false =>
    rw [← pieces_of_relative (hsame.trans habs), ← pieces_of_relative habs]
    rcases hpieces with hpieces | ⟨-, htrue, -⟩
    · exact Or.inl (by rwa [hpieces])
    · rw [habs] at htrue
      simp at htrue

/-! ## Joining -/

/-- **A relative path** that is appended adds its slices, behind all that are not empty at the
end. -/
theorem slices_join {x : Path} (hx : x.isAbsolute = false) (p : Path) :
    (p.join x).isAbsolute = p.isAbsolute ∧ ((p.join x).slices = p.slices ++ x.slices ∨
      ∃ front, p.slices = front ++ [[]] ∧ (p.join x).slices = front ++ x.slices) := by
  rw [join, hx, if_neg (by simp)]
  split
  · next hcond =>
    rw [Bool.or_eq_true, decide_eq_true_eq] at hcond
    rcases hcond with hempty | hlast
    · have hnil : p.text.toList = [] := by simpa using hempty
      refine ⟨?_, Or.inr ⟨[], ?_, ?_⟩⟩
      · rw [isAbsolute] at hx
        rw [isAbsolute, isAbsolute, String.toList_append, hnil, List.nil_append, hx]
        rfl
      · rw [slices, hnil]
        rfl
      · rw [slices, slices, String.toList_append, hnil, List.nil_append, List.nil_append]
    · obtain ⟨front, hfront⟩ := List.getLast?_eq_some_iff.mp hlast
      have hjoin : (p.text ++ x.text).toList = front ++ '/' :: x.text.toList := by
        rw [String.toList_append, hfront, List.append_assoc, List.singleton_append]
      refine ⟨?_, Or.inr ⟨Text.splitChar '/' front, ?_, ?_⟩⟩
      · rw [isAbsolute, isAbsolute, hjoin, hfront]
        cases front <;> rfl
      · rw [slices, hfront, Text.splitChar_append_cons]
        rfl
      · rw [slices, slices, hjoin, Text.splitChar_append_cons]
  · next hcond =>
    have hjoin : (p.text ++ "/" ++ x.text).toList = p.text.toList ++ '/' :: x.text.toList := by
      simp
    refine ⟨?_, Or.inl ?_⟩
    · rw [Bool.or_eq_true, not_or] at hcond
      have hne : p.text.toList ≠ [] := fun hnil => hcond.1 (by simpa using hnil)
      obtain ⟨c, cs, hcs⟩ := List.exists_cons_of_ne_nil hne
      rw [isAbsolute, isAbsolute, hjoin, hcs]
      rfl
    · rw [slices, slices, slices, hjoin, Text.splitChar_append_cons]

/-- A name that is a **piece of its own**: not empty, no dots, and without a slash. -/
structure IsPlain (name : String) : Prop where
  ne_nil : name.toList ≠ []
  ne_here : name.toList ≠ ['.']
  ne_up : name.toList ≠ ['.', '.']
  no_slash : '/' ∉ name.toList

instance (name : String) : Decidable (IsPlain name) :=
  decidable_of_iff (name.toList ≠ [] ∧ name.toList ≠ ['.'] ∧ name.toList ≠ ['.', '.'] ∧
    '/' ∉ name.toList) ⟨fun h => ⟨h.1, h.2.1, h.2.2.1, h.2.2.2⟩,
      fun h => ⟨h.ne_nil, h.ne_here, h.ne_up, h.no_slash⟩⟩

/-- A plain name is a relative path. -/
theorem IsPlain.isAbsolute {name : String} (hn : IsPlain name) :
    (⟨name⟩ : Path).isAbsolute = false := by
  rw [Path.isAbsolute, decide_eq_false_iff_not]
  intro hhead
  exact hn.no_slash (List.mem_of_mem_head? (by rw [hhead]; rfl))

/-- A plain name is one slice. -/
theorem IsPlain.slices {name : String} (hn : IsPlain name) :
    (⟨name⟩ : Path).slices = [name.toList] := Text.splitChar_of_not_mem hn.no_slash

/-- **A plain name** that is appended is one more slice, behind all that are not empty at the
end. -/
theorem slices_joinName {name : String} (hn : IsPlain name) (p : Path) :
    (p.joinName name).isAbsolute = p.isAbsolute ∧
      ((p.joinName name).slices = p.slices ++ [name.toList] ∨
        ∃ front, p.slices = front ++ [[]] ∧ (p.joinName name).slices = front ++ [name.toList]) := by
  rw [joinName, ← hn.slices]
  exact slices_join hn.isAbsolute p

end Path

end Scaffold
