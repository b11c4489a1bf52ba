import Scaffold.Proofs.Node.Addressed
import Scaffold.Proofs.Template.Construct

/-!
# Proofs/Node/Verbatim — names that are used as they stand

A text becomes a name that is used as it stands, or one that is rendered.  It is used as it stands unless
both ends of a tag occur in it.  A text can have both ends and still no complete construct, where the closing
end starts before the opening one is over.  Such a name is rendered, but never to the text itself, and no key
addresses a child by it (`ofString_verbatim`).
-/

namespace Scaffold

namespace Name

open Folder Node
open Template.Token (HasConstruct HasEnds isTemplate_iff)

variable {n : Name} {s key : String} {f : Folder} {child : Node}

/-- A name that is **used verbatim**: in every context it is a text, and the text addresses a child that
has the name. -/
structure Verbatim (n : Name) (s : String) : Prop where
  resolves : ∀ r d context, n.resolve r d context = .ok (some s)
  static : n.static? = some s
  /-- With such a child, there is one under the text. -/
  found : ∀ f : Folder, (∃ child ∈ f.contents, child.name = n) → ∃ i, f.index s = .ok i
  /-- It is the first child whose name is the text, unless the text is an identifier. -/
  addressed : ∀ (f : Folder) front child back, f.contents = front ++ child :: back → child.name = n →
    s ∉ ids f.contents → (∀ m ∈ front, m.name.static? ≠ some s) → f.index s = .ok front.length

/-- A name that is **never a text**: if it comes to anything, it is shorter, and no key addresses a child
by it. -/
structure Foreign (n : Name) (s : String) : Prop where
  resolves : ∀ r d context answer, n.resolve r d context = .ok answer →
    ∃ t, answer = some t ∧ t.length < s.length
  static : n.static? = none
  unaddressed : ∀ (f : Folder) key i child, f.index key = .ok i → f.contents[i]? = some child →
    child.name = n → child.id? = some key

/-! ## Keys -/

theorem index_eq_ok {i : Nat} : f.index key = .ok i ↔ f.index? key = some i := by
  unfold Folder.index
  cases f.index? key <;> simp

/-- The name of a child that is the same in every context **addresses a child**. -/
theorem exists_index (hchild : child ∈ f.contents) (hkey : child.name.static? = some key) :
    ∃ i, f.index key = .ok i := by
  simp only [index_eq_ok, Folder.index?]
  cases f.contents.findIdx? fun m => m.id? == some key with
  | some i => exact ⟨i, rfl⟩
  | none =>
    rw [← Option.isSome_iff_exists, List.findIdx?_isSome, List.any_eq_true]
    exact ⟨child, hchild, beq_iff_eq.mpr hkey⟩

/-- A key addresses a child by **its identifier or its name**. -/
theorem id?_or_static?_of_index {i : Nat} (h : f.index key = .ok i) (hchild : f.contents[i]? = some child) :
    child.id? = some key ∨ child.name.static? = some key := by
  rw [index_eq_ok, Folder.index?] at h
  obtain ⟨hlt, rfl⟩ := List.getElem?_eq_some_iff.mp hchild
  cases hid : f.contents.findIdx? fun m => m.id? == some key with
  | some j =>
    rw [hid] at h
    obtain rfl := Option.some.inj h
    obtain ⟨_, hj, -⟩ := List.findIdx?_eq_some_iff_getElem.mp hid
    exact Or.inl (beq_iff_eq.mp hj)
  | none =>
    rw [hid] at h
    obtain ⟨_, hj, -⟩ := List.findIdx?_eq_some_iff_getElem.mp h
    exact Or.inr (beq_iff_eq.mp hj)

/-! ## Names -/

/-- A name that is written out is **used verbatim**. -/
theorem verbatim_literal (s : String) : (Name.literal s).Verbatim s where
  resolves _ _ _ := rfl
  static := rfl
  found := by
    rintro f ⟨child, hchild, hname⟩
    exact exists_index hchild (by rw [hname, static?])
  addressed := by
    intro f front child back hf hname hids hfirst
    rw [index_eq_ok]
    exact index?_of_static hids hf hfirst (by rw [hname, static?])

/-- A name that is rendered is **never a text** without a complete construct. -/
theorem foreign_template (t : TemplateText) (hnone : ¬HasConstruct t.text.toList) :
    (Name.template t).Foreign t.text where
  resolves := by
    intro r d context answer h
    obtain ⟨out, hout, rfl⟩ := Except.exists_of_map h
    obtain ⟨pages, hpages⟩ := Renderer.exists_render_of_render hout
    obtain ⟨kind, hopener, -⟩ := isTemplate_iff.mp t.isTemplate_text
    exact ⟨out, rfl, Template.length_render_lt hnone ⟨kind, hopener⟩ hpages⟩
  static := rfl
  unaddressed := by
    intro f key i child hindex hchild hname
    rcases id?_or_static?_of_index hindex hchild with hid | hstatic
    · exact hid
    · rw [hname] at hstatic
      exact nomatch hstatic

/-- A text is handed over **as it is read**. -/
theorem ofOwned_eq (s : String) : ofOwned s = ofString s := by
  unfold ofOwned
  split_ifs with h
  · rfl
  · exact (ofString_of_not_isTemplate (Bool.not_eq_true _ ▸ h)).symm

/-- **No complete construct is missed**: a text with one is rendered. -/
theorem ofString_of_hasConstruct (h : HasConstruct s.toList) :
    ∃ t : TemplateText, ofString s = .template t ∧ t.text = s :=
  ⟨_, ofString_of_isTemplate (isTemplate_iff.mpr h.hasEnds), rfl⟩

/-- **Names used verbatim.**  A text without a complete construct becomes one name, read or handed over.  It
is used verbatim exactly if the text does not have both ends of a tag, in whatever order.  With both ends it
is never the text: it is refused or shorter in every context, and no key addresses a child by it. -/
theorem ofString_verbatim (hnone : ¬HasConstruct s.toList) :
    ofOwned s = ofString s ∧ ((ofString s).Verbatim s ↔ ¬HasEnds s.toList) ∧
      (HasEnds s.toList → (ofString s).Foreign s) := by
  have hforeign : HasEnds s.toList → (ofString s).Foreign s := by
    intro hends
    rw [ofString_of_isTemplate (isTemplate_iff.mpr hends)]
    exact foreign_template ⟨s, _⟩ hnone
  refine ⟨ofOwned_eq s, ⟨?_, ?_⟩, hforeign⟩
  · intro hverbatim hends
    exact nomatch hverbatim.static.symm.trans (hforeign hends).static
  · intro hends
    have hliteral : isTemplate s = false := by
      rw [← Bool.not_eq_true, isTemplate_iff]
      exact hends
    rw [ofString_of_not_isTemplate hliteral]
    exact verbatim_literal s

/-- What opens a tag, and **nothing** that closes it. -/
def unclosed : String := "\x7b\x7b draft"

/-- Both ends of a tag, **the other way round**. -/
def reversed : String := "\x7d\x7d\x7b\x7b"

/-- Both ends of a tag **in a comment**. -/
def commented : String := "\x7b#\x7d\x7d\x7b\x7b#\x7dx"

/-- A tag that is left open is **used verbatim**, and two ends in a comment are never the text. -/
theorem ofString_verbatim_strays :
    (¬HasConstruct unclosed.toList ∧ (ofString unclosed).Verbatim unclosed) ∧
      ¬HasConstruct commented.toList ∧ (ofString commented).Foreign commented := by
  have hunclosed : ¬HasConstruct unclosed.toList := by decide +kernel
  have hends : ¬HasEnds unclosed.toList := by decide +kernel
  have hcommented : ¬HasConstruct commented.toList := by decide +kernel
  have hboth : HasEnds commented.toList := by decide +kernel
  exact ⟨⟨hunclosed, (ofString_verbatim hunclosed).2.1.mpr hends⟩, hcommented,
    (ofString_verbatim hcommented).2.2 hboth⟩

/-- The closing end of a tag **in front of the opening one** makes a name that no context is good for and
that a folder does not find. -/
theorem ofString_verbatim_reversed : ¬HasConstruct reversed.toList ∧
    (∀ r d context, (ofString reversed).resolve r d context = .error (.template .syntaxError)) ∧
    (ofString reversed).static? = none ∧
    ∀ content, Folder.index ⟨none, .literal "root", [.file none (ofString reversed) content]⟩ reversed =
      .error (.nodeNotFound reversed) := by
  have hread : isTemplate reversed = true := by decide +kernel
  have hparse : Template.parse reversed = .error .syntaxError := rfl
  have hrender : ∀ (r : Renderer) d context, r.render d reversed context =
      .error (.template .syntaxError) := by
    intro r d context
    rw [Renderer.render, Renderer.maxPages, Renderer.renderFrom, Template.render, hparse]
    rfl
  rw [ofString_of_isTemplate hread]
  refine ⟨by decide +kernel, fun r d context => ?_, rfl, fun content => rfl⟩
  rw [resolve, TemplateText.render, hrender]
  rfl

end Name

end Scaffold
