import Scaffold.Json.Token
import Scaffold.Text.Quoted

/-!
# Cutting a JSON text into tokens

Space, tab, line feed and carriage return separate tokens; every other byte belongs to one.
`next?` cuts the first token from a text and `tokens` cuts all of them, up to the end or to
the first faulty one.
-/

namespace Scaffold.Json

/-- A byte seen as the character of the same number. -/
abbrev asChar (b : UInt8) : Char :=
  Char.ofNat b.toNat

/-- Whether a byte is white space. -/
def isSpace (b : UInt8) : Bool :=
  b = 0x20 || b = 0x09 || b = 0x0A || b = 0x0D

/-- Whether a byte is a decimal digit. -/
def isDigit (b : UInt8) : Bool :=
  0x30 ≤ b && b ≤ 0x39

/-- The leading digits of a text, as numbers, and what follows them. -/
def digits (bs : List UInt8) : List Nat × List UInt8 :=
  ((bs.takeWhile isDigit).map fun b => b.toNat - 0x30, bs.dropWhile isDigit)

/-- The value of four hexadecimal digits. -/
def hexUnit? (a b c d : UInt8) : Option Nat := do
  let a ← Text.hexValue? (asChar a)
  let b ← Text.hexValue? (asChar b)
  let c ← Text.hexValue? (asChar c)
  let d ← Text.hexValue? (asChar d)
  some (((16 * a + b) * 16 + c) * 16 + d)

/-- The character that a one-letter escape stands for. -/
def namedEscape? (b : UInt8) : Option Char :=
  match asChar b with
  | '"' => some '"'
  | '\\' => some '\\'
  | '/' => some '/'
  | 'b' => some '\x08'
  | 'f' => some '\x0C'
  | 'n' => some '\n'
  | 'r' => some '\r'
  | 't' => some '\t'
  | _ => none

/-- Reads a string from behind its opening quote: the pieces, why it breaks off if it does,
and what follows it. -/
def stringBody (bs : List UInt8) : List Piece × Option StringFault × List UInt8 :=
  match bs with
  | [] => ([], some .unfinished, [])
  | b :: rest =>
    if asChar b = '"' then
      ([], none, rest)
    else if asChar b = '\\' then
      match rest with
      | [] => ([], some .unfinished, [])
      | e :: rest =>
        if asChar e = 'u' then
          match rest with
          | h₁ :: h₂ :: h₃ :: h₄ :: rest =>
            match hexUnit? h₁ h₂ h₃ h₄ with
            | some u =>
              let (pieces, more) := stringBody rest
              (.unit u :: pieces, more)
            | none => ([], some .badUnit, rest)
          | _ => ([], some .unfinished, [])
        else
          match namedEscape? e with
          | some c =>
            let (pieces, more) := stringBody rest
            (.named c :: pieces, more)
          | none => ([], some .badEscape, rest)
    else if b < 0x20 then
      ([], some .control, rest)
    else
      let (pieces, more) := stringBody rest
      (.byte b :: pieces, more)

/-- Reads the sign of an exponent: whether it is negative, and what follows it. -/
def exponentSign (bs : List UInt8) : Bool × List UInt8 :=
  match bs with
  | [] => (false, [])
  | s :: rest =>
    if asChar s = '-' then (true, rest)
    else if asChar s = '+' then (false, rest)
    else (false, s :: rest)

/-- Reads the exponent of a numeral whose other parts are known. -/
def exponentPart (n : Numeral) (bs : List UInt8) : Token × List UInt8 :=
  match bs with
  | [] => (.number n, [])
  | e :: rest =>
    if asChar e = 'e' ∨ asChar e = 'E' then
      match digits (exponentSign rest).2 with
      | ([], rest) => (.badNumber rest.isEmpty, rest)
      | (ds, more) => (.number { n with exponent := some ((exponentSign rest).1, ds) }, more)
    else
      (.number n, e :: rest)

/-- Reads the fraction of a numeral whose whole part is known, and what follows it. -/
def fractionPart (n : Numeral) (bs : List UInt8) : Token × List UInt8 :=
  match bs with
  | [] => (.number n, [])
  | p :: rest =>
    if asChar p = '.' then
      match digits rest with
      | ([], rest) => (.badNumber rest.isEmpty, rest)
      | (ds, rest) => exponentPart { n with fraction := some ds } rest
    else
      exponentPart n (p :: rest)

/-- Reads a numeral from behind its sign. -/
def numeral (negative : Bool) (bs : List UInt8) : Token × List UInt8 :=
  match digits bs with
  | ([], rest) => (.badNumber rest.isEmpty, rest)
  | (0 :: _ :: _, rest) => (.badNumber false, rest)
  | (ds, rest) => fractionPart ⟨negative, ds, none, none⟩ rest

/-- Reads the rest of a word that stands for a token. -/
def word (t : Token) (letters : List Char) (bs : List UInt8) : Token × List UInt8 :=
  match letters, bs with
  | [], bs => (t, bs)
  | _ :: _, [] => (.badWord true, [])
  | l :: letters, b :: rest =>
    if asChar b = l then word t letters rest else (.badWord false, rest)

/-- Cuts the token that begins with a byte from the text behind that byte. -/
def tokenFrom (b : UInt8) (rest : List UInt8) : Token × List UInt8 :=
  match asChar b with
  | '[' => (.openList, rest)
  | ']' => (.closeList, rest)
  | '{' => (.openObject, rest)
  | '}' => (.closeObject, rest)
  | ',' => (.comma, rest)
  | ':' => (.colon, rest)
  | 'n' => word .null ['u', 'l', 'l'] rest
  | 't' => word (.boolean true) ['r', 'u', 'e'] rest
  | 'f' => word (.boolean false) ['a', 'l', 's', 'e'] rest
  | '"' =>
    let (pieces, fault, rest) := stringBody rest
    (.string pieces fault, rest)
  | '-' => numeral true rest
  | _ => if isDigit b then numeral false (b :: rest) else (.stray, rest)

/-- Cuts the first token from a text; `none` where only white space is left. -/
def next? (bs : List UInt8) : Option (Token × List UInt8) :=
  match bs.dropWhile isSpace with
  | [] => none
  | b :: rest => some (tokenFrom b rest)

/-- Cuts at most `n` tokens from a text. -/
def tokensWithin (n : Nat) (bs : List UInt8) : List Token :=
  match n with
  | 0 => []
  | n + 1 =>
    match next? bs with
    | none => []
    | some (t, rest) => t :: if t.isFaulty then [] else tokensWithin n rest

/-- The **tokens of a text**. A token takes a byte at least, so the length of the text bounds
their number. -/
def tokens (bs : List UInt8) : List Token :=
  tokensWithin bs.length bs

end Scaffold.Json
