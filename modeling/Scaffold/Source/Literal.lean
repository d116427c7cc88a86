import Scaffold.Text.Identifier
import Scaffold.Text.Quoted

/-!
# Literals

Numbers and quoted text of generated source. A literal is kept as it is spelled, since
formatting does not respell it; of a text literal the text is kept as well. Every literal may
carry a suffix, an identifier that follows without a blank.

## Main definitions

* `Literal.read?` - the literal with which a text begins, and what follows it.
* `Literal.quoted` - the literal that stands for a text.
-/

namespace Scaffold.Source

open Text (startsIdentifier continuesIdentifier hexValue?)
open Text.Quoted (Rules)

/-- What a literal stands for. -/
inductive LiteralKind where
  /-- A text, by its characters. -/
  | text (value : List Char)
  /-- A sequence of bytes. -/
  | bytes
  /-- A text that ends at the first zero. -/
  | zeroEnded
  | byte
  | character
  | integer
  | boolean
  | float
  deriving Repr, DecidableEq

/-- A literal. -/
structure Literal where
  kind : LiteralKind
  /-- The literal as it is spelled. -/
  spelling : List Char
  deriving Repr, DecidableEq

namespace Literal

/-- What follows the suffix of a literal; everything if there is no suffix. -/
def afterSuffix (cs : List Char) : List Char :=
  match cs with
  | [] => []
  | c :: rest => if startsIdentifier c then rest.dropWhile continuesIdentifier else cs

/-! ### Quoted literals -/

/-- What follows a raw quotation: it ends at a quote with the given hashes behind it. A carriage
return has to be followed by a line feed. -/
def rawFrom (rules : Rules) (hashes cs : List Char) : Option (List Char × List Char) :=
  match cs with
  | [] => none
  | c :: rest =>
    if c = '"' ∧ hashes.isPrefixOf rest then
      some ([], rest.drop hashes.length)
    else if (c = '\r' ∧ rest.head? ≠ some '\n') ∨ !rules.admits c then
      none
    else
      (rawFrom rules hashes rest).map fun (text, rest) => (c :: text, rest)

/-- The most hashes that may open a raw quotation. -/
def hashMax : Nat := 255

/-- Reads a raw quotation from its hashes on. -/
def raw? (rules : Rules) (cs : List Char) : Option (List Char × List Char) :=
  let hashes := cs.takeWhile (· = '#')
  match cs.dropWhile (· = '#') with
  | '"' :: rest => if hashes.length ≤ hashMax then rawFrom rules hashes rest else none
  | _ => none

/-- Reads a single character, spelled out or as an escape, up to the closing apostrophe. -/
def single? (rules : Rules) (cs : List Char) : Option (List Char) :=
  let rest :=
    match cs with
    | [] => none
    | '\\' :: rest => (Text.Quoted.readEscape rules rest).map (·.2)
    | c :: rest => if rules.admits c then some rest else none
  match rest with
  | some ('\'' :: rest) => some rest
  | _ => none

/-- Reads a literal that begins with a quote, or with letters in front of one: what it stands
for, and what follows it without its suffix. -/
def quoted? (cs : List Char) : Option (LiteralKind × List Char) :=
  match cs with
  | '"' :: rest => (Text.Quoted.read .text rest).map fun (text, rest) => (.text text, rest)
  | 'b' :: '"' :: rest => (Text.Quoted.read .bytes rest).map fun (_, rest) => (.bytes, rest)
  | 'c' :: '"' :: rest =>
    (Text.Quoted.read .zeroEnded rest).map fun (_, rest) => (.zeroEnded, rest)
  | 'b' :: 'r' :: rest => (raw? .bytes rest).map fun (_, rest) => (.bytes, rest)
  | 'c' :: 'r' :: rest => (raw? .zeroEnded rest).map fun (_, rest) => (.zeroEnded, rest)
  | 'r' :: rest => (raw? .text rest).map fun (text, rest) => (.text text, rest)
  | 'b' :: '\'' :: rest => (single? .bytes rest).map fun rest => (.byte, rest)
  | '\'' :: rest => (single? .text rest).map fun rest => (.character, rest)
  | _ => none

/-! ### Numbers -/

/-- Whether a character is a decimal digit or a separator between digits. -/
def isDigitOrGap (c : Char) : Bool :=
  c.isDigit || c = '_'

/-- What follows an exponent from behind its letter: separators, a sign, and a digit at least.
-/
def exponent? (cs : List Char) : Option (List Char) :=
  let isGap (c : Char) : Bool := c = '_'
  let rest :=
    match cs.dropWhile isGap with
    | '+' :: rest => rest.dropWhile isGap
    | '-' :: rest => rest.dropWhile isGap
    | rest => rest
  match rest with
  | c :: _ => if c.isDigit then some (rest.dropWhile isDigitOrGap) else none
  | [] => none

/-- What follows the digits of a number with a point or an exponent. A point is one only where
neither another point nor an identifier follows it. -/
def float? (cs : List Char) : Option (List Char) :=
  match cs.dropWhile isDigitOrGap with
  | '.' :: rest =>
    if rest.head?.any fun c => c = '.' || startsIdentifier c then
      none
    else
      let rest := rest.dropWhile isDigitOrGap
      match rest with
      | 'e' :: more => some ((exponent? more).getD rest)
      | 'E' :: more => some ((exponent? more).getD rest)
      | rest => some rest
  | 'e' :: rest => exponent? rest
  | 'E' :: rest => exponent? rest
  | _ => none

/-- The base that a number is written in, and its text from behind the mark of the base. -/
def base (cs : List Char) : Nat × List Char :=
  match cs with
  | '0' :: 'x' :: rest => (16, rest)
  | '0' :: 'o' :: rest => (8, rest)
  | '0' :: 'b' :: rest => (2, rest)
  | cs => (10, cs)

/-- Whether a character belongs to the digits of a whole number in a base. -/
def isDigitOf (base : Nat) (c : Char) : Bool :=
  c = '_' || c.isDigit || ((hexValue? c).any (· < base))

/-- What follows the digits of a whole number. A decimal digit must not exceed the base. -/
def integer? (cs : List Char) : Option (List Char) :=
  let (b, cs) := base cs
  let digits := cs.takeWhile (isDigitOf b)
  if digits.any (· ≠ '_') ∧ digits.all fun c => c = '_' || (hexValue? c).any (· < b) then
    some (cs.dropWhile (isDigitOf b))
  else
    none

/-- What follows a number and its suffix. No letter or digit may follow the suffix. -/
def afterNumber? (cs : List Char) : Option (List Char) :=
  let rest := afterSuffix cs
  if rest.head?.any continuesIdentifier then none else some rest

/-- Reads a number. -/
def number? (cs : List Char) : Option (LiteralKind × List Char) :=
  if cs.head?.any Char.isDigit then
    match (float? cs).bind afterNumber? with
    | some rest => some (.float, rest)
    | none => ((integer? cs).bind afterNumber?).map fun rest => (.integer, rest)
  else
    none

/-- What a literal stands for, and what follows it with its suffix. -/
def kind? (cs : List Char) : Option (LiteralKind × List Char) :=
  match quoted? cs with
  | some (kind, rest) => some (kind, afterSuffix rest)
  | none => number? cs

/-- The **literal with which a text begins**, and what follows it. -/
def read? (cs : List Char) : Option (Literal × List Char) :=
  (kind? cs).map fun (kind, rest) => (⟨kind, cs.take (cs.length - rest.length)⟩, rest)

/-- The literal that stands for a text. -/
def quoted (text : List Char) : Literal :=
  ⟨.text text, Text.quoteChars text⟩

end Literal

end Scaffold.Source
