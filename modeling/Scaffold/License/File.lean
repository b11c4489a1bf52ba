import Scaffold.License.Basic
import Scaffold.Node.Basic

/-!
# License/File — the file with the license

The name and the content of `License.file` follow the license that the context chooses; without one
there is no file.
-/

namespace Scaffold.License

/-- The **file** with the license. -/
def file : Node :=
  .file none (.computed fun ctx => (ofContext? ctx).map filename)
    (.computed fun ctx => (ofContext? ctx).map fun l => .text l.text)

end Scaffold.License
