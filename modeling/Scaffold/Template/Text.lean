import Scaffold.Renderer

/-!
# Template/Text — texts with template syntax

A text counts as a template if it has both ends of a printed expression or both ends of a tag, in
whatever order.
-/

namespace Scaffold

/-- Whether a text carries **template syntax**. -/
def isTemplate (s : String) : Bool :=
  let has (piece : String) : Bool := Text.occursIn piece.toList s.toList
  (has "\x7b\x7b" && has "\x7d\x7d") || (has "\x7b%" && has "%\x7d")

/-- A text known to carry template syntax. -/
structure TemplateText where
  text : String
  isTemplate_text : isTemplate text = true

namespace TemplateText

/-- Accepts a text with template syntax. -/
def ofString (s : String) : Except Error TemplateText :=
  if h : isTemplate s = true then .ok ⟨s, h⟩ else .error (.notTemplate s)

/-- Renders the text against a context. -/
def render (t : TemplateText) (r : Renderer) (d : Disk) (context : Context) :
    Except Error String :=
  r.render d t.text context

end TemplateText

end Scaffold
