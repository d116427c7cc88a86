import Scaffold.Json.Token
import Scaffold.Text.Utf8

/-!
# JSON strings

The text that the content of a string stands for, and the content that stands for a text.
Code units of sixteen bits have to come in the pairs that UTF-16 gives them, and the bytes
between escapes have to be well-formed UTF-8. A pair is checked where it stands; the bytes
are checked once the string is complete.

## Main definitions

* `textOf` - the text of a string token, or why it has none.
* `quoteChars` - the string that stands for a text, with its quotes.
-/

namespace Scaffold.Json

/-- Whether a code unit is the first of a pair. -/
def isHighSurrogate (u : Nat) : Bool :=
  0xD800 ≤ u && u ≤ 0xDBFF

/-- Whether a code unit is the second of a pair. -/
def isLowSurrogate (u : Nat) : Bool :=
  0xDC00 ≤ u && u ≤ 0xDFFF

/-- The code point of a pair of code units. -/
def pairCode (high low : Nat) : Nat :=
  0x10000 + (high - 0xD800) * 0x400 + (low - 0xDC00)

/-- The failure of a first code unit with no second one behind it, at the point where the
string breaks off or closes. -/
def unpaired (fault : Option StringFault) : Failure :=
  match fault with
  | some .unfinished => .endInString
  | some .badUnit => .invalidEscape
  | _ => .unfinishedPair

/-- The bytes that pieces stand for, with every code unit in its place. -/
def bytesOf (pieces : List Piece) (fault : Option StringFault) : Except Failure (List UInt8) :=
  match pieces with
  | [] =>
    match fault with
    | none => .ok []
    | some f => .error f.failure
  | .byte b :: rest => (bytesOf rest fault).map (b :: ·)
  | .named c :: rest => (bytesOf rest fault).map (String.utf8EncodeChar c ++ ·)
  | .unit u :: rest =>
    if isLowSurrogate u then
      .error .loneSurrogate
    else if isHighSurrogate u then
      match rest with
      | .unit v :: rest =>
        if isLowSurrogate v then
          (bytesOf rest fault).map (String.utf8EncodeChar (Char.ofNat (pairCode u v)) ++ ·)
        else
          .error .loneSurrogate
      | [] => .error (unpaired fault)
      | _ => .error .unfinishedPair
    else
      (bytesOf rest fault).map (String.utf8EncodeChar (Char.ofNat u) ++ ·)

/-- The text that a string token stands for. -/
def textOf (pieces : List Piece) (fault : Option StringFault) : Except Failure String :=
  (bytesOf pieces fault).bind fun bytes =>
    match Text.Utf8.decode bytes with
    | some cs => .ok (String.ofList cs)
    | none => .error .invalidCodePoint

/-- A hexadecimal digit in lower case. -/
def hexDigit (n : Nat) : Char :=
  Nat.digitChar n

/-- How one character is written in a string: quote, backslash and control characters are
escaped, by name where they have one, and all else stands for itself. -/
def escape (c : Char) : List Char :=
  match c with
  | '"' => ['\\', '"']
  | '\\' => ['\\', '\\']
  | '\x08' => ['\\', 'b']
  | '\x0C' => ['\\', 'f']
  | '\n' => ['\\', 'n']
  | '\r' => ['\\', 'r']
  | '\t' => ['\\', 't']
  | c =>
    if c.toNat < 0x20 then
      ['\\', 'u', '0', '0', hexDigit (c.toNat / 16), hexDigit (c.toNat % 16)]
    else
      [c]

/-- The string that stands for a text. -/
def quoteChars (cs : List Char) : List Char :=
  '"' :: cs.flatMap escape ++ ['"']

end Scaffold.Json
