/-!
# Text/Blank — blank characters

`isBlank` is the white space of all scripts, `trim` drops it at both ends.
-/

namespace Scaffold.Text

/-- Whether a character is **white space**. -/
def isBlank (c : Char) : Bool :=
  let n := c.toNat
  (decide (9 ≤ n) && decide (n ≤ 13)) || n == 0x20 || n == 0x85 || n == 0xA0 || n == 0x1680 ||
    (decide (0x2000 ≤ n) && decide (n ≤ 0x200A)) || n == 0x2028 || n == 0x2029 || n == 0x202F ||
    n == 0x205F || n == 0x3000

/-- Drops characters at the start. -/
def trimStartBy (p : Char → Bool) (cs : List Char) : List Char := cs.dropWhile p

/-- Drops characters at the end. -/
def trimEndBy (p : Char → Bool) (cs : List Char) : List Char := (cs.reverse.dropWhile p).reverse

/-- Drops characters at both ends. -/
def trimBy (p : Char → Bool) (cs : List Char) : List Char := trimEndBy p (trimStartBy p cs)

/-- Drops white space at both ends. -/
def trim (cs : List Char) : List Char := trimBy isBlank cs

end Scaffold.Text
