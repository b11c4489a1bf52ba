import Scaffold.Text.Letter

/-!
# Text/Casing — the case conventions of identifiers

`snake` and `kebab` separate the words of a text by one character, `pascal` and `camel` by capitals.
Letters and numerals make up words, everything else separates them; only the first 128 characters
change case.
-/

namespace Scaffold.Text

/-- Drops what is no word at the end. -/
def trimWords (cs : List Char) : List Char :=
  (cs.reverse.dropWhile fun c => !isWordChar c).reverse

/-- Whether a word starts at a capital or a numeral: a neighbour is in lower case.  Neighbours are
looked up in the whole text at the byte offset of the character. -/
def startsWord (whole : List Char) (offset : Nat) (c : Char) : Bool :=
  c == c.toUpper &&
    ((whole[offset + 1]?).any isLowerCase || (whole[offset - 1]?).any isLowerCase)

/-- Words in lower case with `sep` between them; `first` says that no word is under way. -/
def separatedFrom (sep : Char) (whole : List Char) (offset : Nat) (first : Bool) :
    List Char → List Char
  | [] => []
  | c :: cs =>
    let next := offset + c.utf8Size
    if !isWordChar c then
      if first then separatedFrom sep whole next true cs
      else sep :: separatedFrom sep whole next true cs
    else if !first && startsWord whole offset c then
      sep :: c.toLower :: separatedFrom sep whole next false cs
    else c.toLower :: separatedFrom sep whole next false cs

/-- Words in lower case with a character between them. -/
def separated (sep : Char) (s : String) : String :=
  String.ofList (separatedFrom sep s.toList 0 true (trimWords s.toList))

/-- **Snake case**: `my_package`. -/
def snake (s : String) : String := separated '_' s

/-- **Kebab case**: `my-package`. -/
def kebab (s : String) : String := separated '-' s

/-- Words run together.  `capital` says that the next letter starts a word, `last` is the last letter
that did not, `found` says that a word has been seen. -/
def capitalsFrom (capital : Bool) (last : Char) (found : Bool) : List Char → List Char
  | [] => []
  | c :: cs =>
    if !isWordChar c then capitalsFrom (capital || found) last found cs
    else if isNumeral c then c :: capitalsFrom true last true cs
    else if capital || (isLowerCase last && isUpperCase c) then
      c.toUpper :: capitalsFrom false last true cs
    else c.toLower :: capitalsFrom false c true cs

/-- **Pascal case**: `MyPackage`. -/
def pascal (s : String) : String := String.ofList (capitalsFrom true ' ' false (trimWords s.toList))

/-- **Camel case**: `myPackage`. -/
def camel (s : String) : String := String.ofList (capitalsFrom false ' ' false (trimWords s.toList))

end Scaffold.Text
