import Scaffold.Source.Literal

/-!
# Source tokens

The tokens of generated source, as a flat list in which brackets stand as tokens of their own.
An operator of several marks is a run of marks of which all but the last are *joint*, that is,
followed by a mark without anything between.
-/

namespace Scaffold.Source

/-- An identifier or keyword. -/
structure Name where
  /-- Whether it is marked as an identifier where it could be taken for a keyword. -/
  raw : Bool
  /-- The letters. -/
  text : List Char
  deriving Repr, DecidableEq

/-- A kind of bracket. -/
inductive Delimiter where
  | paren
  | bracket
  | brace
  deriving Repr, DecidableEq

/-- A token of source. -/
inductive Token where
  | name (n : Name)
  /-- A name behind an apostrophe. -/
  | lifetime (n : Name)
  | mark (c : Char) (joint : Bool)
  | literal (l : Literal)
  | opening (d : Delimiter)
  | closing (d : Delimiter)
  deriving Repr, DecidableEq

namespace Name

/-- The name of an identifier or keyword. -/
def ofString (s : String) : Name :=
  ⟨false, s.toList⟩

/-- A name as it is spelled. -/
def spelling (n : Name) : List Char :=
  if n.raw then 'r' :: '#' :: n.text else n.text

/-- The words that may stand for no identifier unless they are marked. -/
def keywords : List String := [
  "_", "Self", "abstract", "as", "async", "await", "become", "box", "break", "const", "continue",
  "crate", "do", "dyn", "else", "enum", "extern", "false", "final", "fn", "for", "if", "impl",
  "in", "let", "loop", "macro", "match", "mod", "move", "mut", "override", "priv", "pub", "ref",
  "return", "self", "static", "struct", "super", "trait", "true", "try", "type", "typeof",
  "unsafe", "unsized", "use", "virtual", "where", "while", "yield"]

/-- Whether a name is an identifier. -/
def isIdentifier (n : Name) : Bool :=
  n.raw || !keywords.contains (String.ofList n.text)

/-- Whether a name is a word that has not been marked. -/
def isWord (n : Name) (word : String) : Bool :=
  !n.raw && String.ofList n.text == word

/-- The words that no mark makes an identifier. -/
def unmarkable : List String :=
  ["_", "super", "self", "Self", "crate"]

end Name

namespace Delimiter

/-- The character that opens a bracket. -/
def opener (d : Delimiter) : Char :=
  match d with
  | .paren => '('
  | .bracket => '['
  | .brace => '{'

/-- The character that closes a bracket. -/
def closer (d : Delimiter) : Char :=
  match d with
  | .paren => ')'
  | .bracket => ']'
  | .brace => '}'

end Delimiter

end Scaffold.Source
