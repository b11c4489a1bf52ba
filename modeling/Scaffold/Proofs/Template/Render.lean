import Scaffold.Proofs.Json.Members
import Scaffold.Template.Text

/-!
# Proofs/Template/Render — what a template renders to

Data keeps its fields as a value (`valueAt_ofJsonFields`) and as the scope a template starts in
(`get?_frame`), so a member of data is an attribute of its value (`attr_ofJson`).  A template that needs no
other one renders the same with a renderer as without (`Renderer.render_of_ok`).
-/

namespace Scaffold

namespace Template

/-- Characters that are written out are scanned **as they are**. -/
theorem scan_ofList (cs : List Char) :
    Token.scan (String.ofList cs) = Token.scanFrom (cs.length + 2) none false cs := by
  rw [Token.scan, String.toList_ofList]

/-- A text that is written out has the **characters it is written with**; evaluation would encode and
decode them. -/
theorem toList_of_eq_ofList {s : String} {cs : List Char} (h : s = String.ofList cs) :
    s.toList = cs := by
  rw [h, String.toList_ofList]

/-- The **scope** that a context makes has the values of its fields. -/
theorem get?_frame (name : String) : ∀ ctx : Context,
    Frame.get? (ctx.map fun f => (f.1, Value.ofJson f.2)) name =
      (Fields.get? ctx name).map Value.ofJson
  | [] => rfl
  | (k, v) :: fs => by
    rw [List.map_cons, Frame.get?, Fields.get?]
    split
    · rfl
    · exact get?_frame name fs

/-- Texts are the same value if they are **equal**. -/
theorem same_text (s t : String) : Value.same (.str s false) (.str t false) = (s == t) := rfl

/-- The **mapping** that an object makes has the values of its fields. -/
theorem valueAt_ofJsonFields (name : String) : ∀ fs : Fields,
    Value.valueAt (Value.ofJsonFields fs) (.str name false) =
      ((Fields.get? fs name).map Value.ofJson).getD .undefined
  | [] => rfl
  | (k, v) :: fs => by
    rw [Value.ofJsonFields, Value.valueAt, Fields.get?, same_text]
    by_cases hk : k = name
    · simp [hk]
    · simp only [beq_iff_eq, hk, if_false]
      exact valueAt_ofJsonFields name fs

/-- **A member** of data is the attribute of its value. -/
theorem attr_ofJson {v w : Json} {name : String} (h : v.member? name = some w) :
    (Value.ofJson v).attr name = .ok (Value.ofJson w) := by
  obtain ⟨fs, rfl, hfs⟩ := Json.exists_fields_of_member? h
  rw [Value.ofJson]
  simp only [Value.attr]
  rw [valueAt_ofJsonFields, hfs]
  rfl

end Template

/-- A template that renders **without any other** is looked up nowhere. -/
theorem Renderer.render_of_ok {r : Renderer} {d : Disk} {text s : String} {ctx : Context}
    (h : Template.render [] text ctx = .ok s) : r.render d text ctx = .ok s := by
  have hfrom : r.renderFrom d text ctx maxPages [] = ([], .ok s) := by
    rw [maxPages, renderFrom, h]
  rw [render, hfrom]

/-- What a renderer answers, it answers with **some templates looked up**. -/
theorem Renderer.exists_render_of_render {r : Renderer} {d : Disk} {text s : String} {ctx : Context}
    (h : r.render d text ctx = .ok s) : ∃ pages, Template.render pages text ctx = .ok s := by
  have hfrom : ∀ fuel pages, (r.renderFrom d text ctx fuel pages).2 = .ok s →
      ∃ pages, Template.render pages text ctx = .ok s := by
    intro fuel
    induction fuel with
    | zero =>
      intro pages h
      exact nomatch h
    | succ fuel ih =>
      intro pages h
      rw [renderFrom] at h
      split at h
      · exact ih _ h
      · exact ⟨pages, h⟩
  rw [render] at h
  split at h
  · next hs =>
    obtain rfl := Except.ok.inj h
    exact hfrom _ _ hs
  · contradiction

end Scaffold
