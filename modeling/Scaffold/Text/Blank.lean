import Scaffold.Text.CharSet

/-!
# White space

The characters with the Unicode property `White_Space`, and the trimming of text by it.
Trimming is defined on lists of characters, where it is two uses of `dropWhile`, and lifted
to strings by `trimmed`.
-/

namespace Scaffold.Text

/-- The characters with the property `White_Space`. -/
def whiteSpace : CharSet := ⟨[
    (0x9, 0xD), (0x20, 0x20), (0x85, 0x85), (0xA0, 0xA0), (0x1680, 0x1680), (0x2000, 0x200A),
    (0x2028, 0x2029), (0x202F, 0x202F), (0x205F, 0x205F), (0x3000, 0x3000)]⟩

/-- Whether a character is **blank**: a space, tab, line end or other white space. -/
def isBlank (c : Char) : Bool :=
  whiteSpace.contains c

/-- The characters from the first that is not blank. -/
def trimLeft (cs : List Char) : List Char :=
  cs.dropWhile isBlank

/-- The characters up to the last that is not blank. -/
def trimRight (cs : List Char) : List Char :=
  (cs.reverse.dropWhile isBlank).reverse

/-- The characters between the first and the last that are not blank. -/
def trim (cs : List Char) : List Char :=
  trimRight (trimLeft cs)

/-- A string without its leading and trailing blanks. -/
def trimmed (s : String) : String :=
  String.ofList (trim s.toList)

end Scaffold.Text
