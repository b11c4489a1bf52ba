import Scaffold.Template.Text

/-!
# Node/Content — what a file holds and where it comes from

Text is rendered before it is written, bytes never are.  A source that is computed may be absent: then
the file is skipped.
-/

namespace Scaffold

/-- The **content** of a file. -/
inductive Content where
  | text (s : String)
  | bytes (b : ByteArray)
deriving Inhabited

namespace Content

/-- The content as it is written. -/
def toBytes : Content → ByteArray
  | .text s => s.toUTF8
  | .bytes b => b

/-- Bytes that are well-formed text count as text. -/
def ofBytes (b : ByteArray) : Content :=
  match String.fromUTF8? b with
  | some s => .text s
  | none => .bytes b

end Content

/-- Where the content of a file **comes from**. -/
inductive Source where
  | text (s : String)
  | bytes (b : ByteArray)
  | resource (r : Resource)
  /-- A file that is read when rendering. -/
  | path (p : Path)
  | computed (f : Context → Option Content)

instance : Inhabited Source := ⟨.text ""⟩

namespace Source

/-- The content before rendering. -/
def resolve (r : Renderer) (d : Disk) (context : Context) : Source → Except Error (Option Content)
  | .text s => .ok (some (.text s))
  | .bytes b => .ok (some (.bytes b))
  | .resource ref => (r.loadResource d ref).map fun s => some (.text s)
  | .path p =>
    match d.readBytes p with
    | .ok b => .ok (some (.ofBytes b))
    | .error fault => .error (.disk fault)
  | .computed f => .ok (f context)

/-- The content after rendering. -/
def render (r : Renderer) (d : Disk) (context : Context) (s : Source) :
    Except Error (Option Content) :=
  match s.resolve r d context with
  | .ok (some (.text raw)) => (r.render d raw context).map fun s => some (.text s)
  | result => result

/-- The source as it is declared. -/
def shown : Source → String
  | .text s => "Text(" ++ Text.quoted s ++ ")"
  | .bytes b => "Bytes(<" ++ toString b.size ++ " bytes>)"
  | .resource r => "Resource(" ++ Text.quoted r.text ++ ")"
  | .path p => "Path(" ++ Text.quoted p.text ++ ")"
  | .computed _ => "Computed(<callable>)"

end Source

end Scaffold
