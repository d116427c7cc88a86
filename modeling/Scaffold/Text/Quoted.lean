import Scaffold.Text.Printable

/-!
# Quoted text

Text between double quotes in which every character that would be lost, or would end the
quotation, is written as an escape. `escape` and `quote` write it. `Quoted.read` reads a
quotation back, from behind its opening quote to its closing one, and accepts more spellings
than `quote` writes: hexadecimal escapes of either kind, an escaped apostrophe, and a line
that is continued by a backslash.

The reader is a machine whose steps look at one character. What a quotation may hold depends
on what it stands for, a text, bytes or a text that ends at the first zero; the machine takes
these `Rules` as a parameter.

## Main definitions

* `quote` - the quotation of a string, with both quotes.
* `Quoted.read` - the text of a quotation and what follows it.
* `Quoted.readEscape` - the character of a single escape and what follows it.
-/

namespace Scaffold.Text

/-- The hexadecimal digits of a number, in lower case and without leading zeros. -/
def hexDigits (n : Nat) : List Char :=
  Nat.toDigits 16 n

/-- The value of a hexadecimal digit of either case. -/
def hexValue? (c : Char) : Option Nat :=
  if c.isDigit then
    some (c.toNat - '0'.toNat)
  else if 'a' ≤ c ∧ c ≤ 'f' then
    some (c.toNat - 'a'.toNat + 10)
  else if 'A' ≤ c ∧ c ≤ 'F' then
    some (c.toNat - 'A'.toNat + 10)
  else
    none

/-- How one character is written inside quotes: by name, by number, or as itself. -/
def escape (c : Char) : List Char :=
  match c with
  | '\x00' => ['\\', '0']
  | '\t' => ['\\', 't']
  | '\r' => ['\\', 'r']
  | '\n' => ['\\', 'n']
  | '"' => ['\\', '"']
  | '\\' => ['\\', '\\']
  | c =>
    if isPrintable c then [c] else '\\' :: 'u' :: '{' :: hexDigits c.toNat ++ ['}']

/-- A text in double quotes, every character escaped as `escape` says. -/
def quoteChars (cs : List Char) : List Char :=
  '"' :: cs.flatMap escape ++ ['"']

/-- The quotation of a string. -/
def quote (s : String) : String :=
  String.ofList (quoteChars s.toList)

namespace Quoted

/-- What a quotation may hold. -/
structure Rules where
  /-- The characters that may stand for themselves. -/
  admits : Char → Bool
  /-- The greatest value of an escape of two digits. -/
  byteMax : Nat
  /-- Whether escapes of a code point are allowed. -/
  hasCodes : Bool
  /-- Whether the value zero is allowed. -/
  hasZero : Bool

/-- Quotations of a text. -/
def Rules.text : Rules where
  admits _ := true
  byteMax := 0x7F
  hasCodes := true
  hasZero := true

/-- Quotations of bytes. -/
def Rules.bytes : Rules where
  admits c := c.toNat < 0x80
  byteMax := 0xFF
  hasCodes := false
  hasZero := true

/-- Quotations of a text that ends at the first zero. -/
def Rules.zeroEnded : Rules where
  admits c := c ≠ '\x00'
  byteMax := 0xFF
  hasCodes := true
  hasZero := false

/-- Where the reader stands inside a quotation. -/
inductive Mode where
  /-- Between two characters of the text. -/
  | text
  /-- Behind a carriage return, which has to be followed by a line feed. -/
  | lineEnd
  /-- Behind a backslash. -/
  | escape
  /-- Behind `\x`, before its first digit. -/
  | byteHigh
  /-- Behind the first digit of `\x`. -/
  | byteLow (high : Nat)
  /-- Behind `\u`, before the brace. -/
  | codeOpen
  /-- Between the braces of `\u`, with the count and value of the digits so far. -/
  | code (digits value : Nat)
  /-- In the white space that a backslash at a line's end skips. -/
  | gap
  /-- In that white space, behind a carriage return. -/
  | gapLineEnd
  deriving Repr, DecidableEq

/-- What the reader does with a character. -/
inductive Step where
  /-- The quotation is not well formed. -/
  | refuse
  /-- The quotation ends. -/
  | close
  /-- The reader goes on in a mode. -/
  | go (mode : Mode)
  /-- A character of the text is complete. -/
  | emit (c : Char)
  deriving Repr, DecidableEq

/-- The character that a one-letter escape stands for. -/
def named? (c : Char) : Option Char :=
  match c with
  | 'n' => some '\n'
  | 'r' => some '\r'
  | 't' => some '\t'
  | '\\' => some '\\'
  | '\'' => some '\''
  | '"' => some '"'
  | '0' => some '\x00'
  | _ => none

/-- Completes a character given by its value. -/
def Rules.value (rules : Rules) (n : Nat) : Step :=
  if n.isValidChar ∧ (n ≠ 0 ∨ rules.hasZero) then .emit (Char.ofNat n) else .refuse

/-- Reads a character between two characters of the text. -/
def Rules.plain (rules : Rules) (c : Char) : Step :=
  if c = '"' then .close
  else if c = '\\' then .go .escape
  else if c = '\r' then .go .lineEnd
  else if rules.admits c then .emit c
  else .refuse

/-- Reads the character behind a backslash. -/
def Rules.escaped (rules : Rules) (c : Char) : Step :=
  match named? c with
  | some d => rules.value d.toNat
  | none =>
    if c = 'x' then .go .byteHigh
    else if c = 'u' ∧ rules.hasCodes then .go .codeOpen
    else if c = '\n' then .go .gap
    else if c = '\r' then .go .gapLineEnd
    else .refuse

/-- Reads one character. -/
def Rules.step (rules : Rules) (mode : Mode) (c : Char) : Step :=
  match mode with
  | .text => rules.plain c
  | .lineEnd => if c = '\n' then .emit c else .refuse
  | .escape => rules.escaped c
  | .byteHigh =>
    match hexValue? c with
    | some d => if 16 * d ≤ rules.byteMax then .go (.byteLow d) else .refuse
    | none => .refuse
  | .byteLow high =>
    match hexValue? c with
    | some d => rules.value (16 * high + d)
    | none => .refuse
  | .codeOpen => if c = '{' then .go (.code 0 0) else .refuse
  | .code digits value =>
    if c = '}' ∧ 0 < digits then rules.value value
    else if c = '_' ∧ 0 < digits then .go (.code digits value)
    else
      match hexValue? c with
      | some d => if digits < 6 then .go (.code (digits + 1) (16 * value + d)) else .refuse
      | none => .refuse
  | .gap =>
    if c = ' ' ∨ c = '\t' ∨ c = '\n' then .go .gap
    else if c = '\r' then .go .gapLineEnd
    else rules.plain c
  | .gapLineEnd => if c = '\n' then .go .gap else .refuse

/-- Reads a quotation to its closing quote: the text, and what follows the quote. -/
def readFrom (rules : Rules) (mode : Mode) (cs : List Char) : Option (List Char × List Char) :=
  match cs with
  | [] => none
  | c :: rest =>
    match rules.step mode c with
    | .refuse => none
    | .close => some ([], rest)
    | .go mode => readFrom rules mode rest
    | .emit d => (readFrom rules .text rest).map fun (text, rest) => (d :: text, rest)

/-- Reads a quotation from behind its opening quote. -/
def read (rules : Rules) (cs : List Char) : Option (List Char × List Char) :=
  readFrom rules .text cs

/-- Reads an escape to its end: the character that it stands for, and what follows. -/
def escapeFrom (rules : Rules) (mode : Mode) (cs : List Char) : Option (Char × List Char) :=
  match cs with
  | [] => none
  | c :: rest =>
    match rules.step mode c with
    | .refuse => none
    | .close => none
    | .go .gap => none
    | .go .gapLineEnd => none
    | .go mode => escapeFrom rules mode rest
    | .emit d => some (d, rest)

/-- Reads an escape from behind its backslash. A line cannot be continued by one. -/
def readEscape (rules : Rules) (cs : List Char) : Option (Char × List Char) :=
  escapeFrom rules .escape cs

end Quoted

end Scaffold.Text
