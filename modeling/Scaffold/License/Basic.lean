import Scaffold.Json.Decode
import Scaffold.License.Texts

/-!
# License/Basic — the licenses a repository can have

A license is known by its identifier in lower case, and has a conventional file name and a text with
gaps for the year and the holder.  A context chooses one under `license`.
-/

namespace Scaffold

/-- A **license**. -/
inductive License where
  | agpl3 | apache2 | bsd2 | bsd3 | bsl1 | cc0 | epl2 | gpl2 | gpl3 | lgpl21 | mit | mpl2
  | unlicense
deriving DecidableEq, Repr, Inhabited

namespace License

/-- Every license, in the order they are listed. -/
def all : List License :=
  [.agpl3, .apache2, .bsd2, .bsd3, .bsl1, .cc0, .epl2, .gpl2, .gpl3, .lgpl21, .mit, .mpl2,
    .unlicense]

/-- The identifier. -/
def id : License → String
  | .agpl3 => "agpl-3.0"
  | .apache2 => "apache-2.0"
  | .bsd2 => "bsd-2-clause"
  | .bsd3 => "bsd-3-clause"
  | .bsl1 => "bsl-1.0"
  | .cc0 => "cc0-1.0"
  | .epl2 => "epl-2.0"
  | .gpl2 => "gpl-2.0"
  | .gpl3 => "gpl-3.0"
  | .lgpl21 => "lgpl-2.1"
  | .mit => "mit"
  | .mpl2 => "mpl-2.0"
  | .unlicense => "unlicense"

/-- The conventional file name. -/
def filename : License → String
  | .agpl3 | .gpl2 | .gpl3 => "COPYING"
  | .lgpl21 => "COPYING.LESSER"
  | .unlicense => "UNLICENSE"
  | _ => "LICENSE"

/-- The text before rendering. -/
def text : License → String
  | .agpl3 => agpl3Text
  | .apache2 => apache2Text
  | .bsd2 => bsd2Text
  | .bsd3 => bsd3Text
  | .bsl1 => bsl1Text
  | .cc0 => cc0Text
  | .epl2 => epl2Text
  | .gpl2 => gpl2Text
  | .gpl3 => gpl3Text
  | .lgpl21 => lgpl21Text
  | .mit => mitText
  | .mpl2 => mpl2Text
  | .unlicense => unlicenseText

/-- The licenses by identifier. -/
def known : List (String × License) := all.map fun l => (l.id, l)

/-- Reads a license from data. -/
def decode : Json → Except DecodeFault License := Decode.variant known

/-- The license a context chooses, if it is a known one. -/
def ofContext? (context : Context) : Option License :=
  match Fields.get? context "license" with
  | some v => (decode v).toOption
  | none => none

end License

end Scaffold
