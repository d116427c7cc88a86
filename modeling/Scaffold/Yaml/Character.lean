/-!
# Characters of YAML texts

Which characters a YAML text may hold and which of them separate its lines and words. Line
ends of several kinds mean the same, and `normalize` writes them all as line feeds; the line
and paragraph separators of Unicode end lines too, and are kept.
-/

namespace Scaffold.Yaml

/-- The mark that may stand in front of a text. -/
def byteOrderMark : Char := '\uFEFF'

/-- Whether a character ends a line of a normalized text. -/
def isBreak (c : Char) : Bool :=
  c = '\n' || c = '\u2028' || c = '\u2029'

/-- Whether a character is a space or a tab. -/
def isGap (c : Char) : Bool :=
  c = ' ' || c = '\t'

/-- Whether a text is at its end or begins with a space, a tab or a line end. -/
def endsWord (cs : List Char) : Bool :=
  match cs with
  | [] => true
  | c :: _ => isGap c || isBreak c

/-- Whether a character may stand in a YAML text. -/
def isReadable (c : Char) : Bool :=
  let n := c.toNat
  n = 0x9 || n = 0xA || n = 0xD || (0x20 ≤ n && n ≤ 0x7E) || n = 0x85
    || (0xA0 ≤ n && n ≤ 0xFFFD) || 0x10000 ≤ n

/-- A text in which every line end but the separators of Unicode is a line feed. -/
def normalize (cs : List Char) : List Char :=
  match cs with
  | [] => []
  | '\r' :: '\n' :: rest => '\n' :: normalize rest
  | c :: rest => (if c = '\r' ∨ c = '\u0085' then '\n' else c) :: normalize rest

/-- Whether a character may stand in the name of an anchor, a tag or a directive. -/
def isNameChar (c : Char) : Bool :=
  c.isAlphanum || c = '_' || c = '-'

/-- Whether a text begins with three hyphens that stand alone. -/
def startsDocument (cs : List Char) : Bool :=
  match cs with
  | '-' :: '-' :: '-' :: rest => endsWord rest
  | _ => false

/-- Whether a text begins with three periods that stand alone. -/
def endsDocument (cs : List Char) : Bool :=
  match cs with
  | '.' :: '.' :: '.' :: rest => endsWord rest
  | _ => false

/-- Whether a line begins with the mark of a document. -/
def isDocumentMark (cs : List Char) : Bool :=
  startsDocument cs || endsDocument cs

/-- What follows the rest of a line that may hold blanks and a comment, its end included. -/
def afterLine? (cs : List Char) : Option (List Char) :=
  let cs := cs.dropWhile isGap
  let cs := if cs.head? = some '#' then cs.dropWhile (!isBreak ·) else cs
  match cs with
  | [] => some []
  | c :: rest => if isBreak c then some rest else none

end Scaffold.Yaml
