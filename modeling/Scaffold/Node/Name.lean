import Scaffold.Template.Text

/-!
# Node/Name — the names of files and folders

A name is used as it stands, rendered against the context, or computed from it.  A computed name may be
absent: then the node has no path and contributes nothing.
-/

namespace Scaffold

/-- The **name** of a file or folder. -/
inductive Name where
  | literal (text : String)
  | template (text : TemplateText)
  | computed (f : Context → Option String)

instance : Inhabited Name := ⟨.literal ""⟩

namespace Name

/-- Texts with template syntax become templates, all others stay as they are. -/
def ofString (s : String) : Name :=
  match TemplateText.ofString s with
  | .ok t => .template t
  | .error _ => .literal s

/-- A text without template syntax is a name that is **written out**. -/
theorem ofString_of_not_isTemplate {s : String} (h : isTemplate s = false) : ofString s = .literal s := by
  have hnot : ¬isTemplate s = true := by simp [h]
  rw [ofString, TemplateText.ofString, dif_neg hnot]

/-- A text with template syntax is a name that is **rendered**. -/
theorem ofString_of_isTemplate {s : String} (h : isTemplate s = true) : ofString s = .template ⟨s, h⟩ := by
  rw [ofString, TemplateText.ofString, dif_pos h]

/-- The name of a text that is **handed over**: without template syntax it is kept, and else it is read
like any other. -/
def ofOwned (s : String) : Name := if isTemplate s then ofString s else .literal s

/-- The name in a context. -/
def resolve (r : Renderer) (d : Disk) (context : Context) : Name → Except Error (Option String)
  | .literal s => .ok (some s)
  | .template t => (t.render r d context).map some
  | .computed f => .ok (f context)

/-- The name if it is the same in every context. -/
def static? : Name → Option String
  | .literal s => some s
  | _ => none

/-- The name as it is declared. -/
def shown : Name → String
  | .literal s => Text.quoted s
  | .template t => "<TemplateStr> " ++ Text.quoted t.text
  | .computed _ => "<callable>"

end Name

end Scaffold
