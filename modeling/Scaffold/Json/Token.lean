import Scaffold.Json.Number

/-!
# JSON tokens

The tokens of a JSON text. A text is cut into tokens without regard to what is expected where;
what cannot be cut further is a token too, a faulty one, and ends the list. Whether a fault, or
a token at the wrong place, is reported is for the reader to decide, which meets the tokens in
order and stops at the first that it cannot use.
-/

namespace Scaffold.Json

/-- A piece of a string's content. -/
inductive Piece where
  /-- A byte that stands for itself. -/
  | byte (b : UInt8)
  /-- A backslash and a letter or mark, which stand for a character. -/
  | named (c : Char)
  /-- A backslash, `u` and four digits, which give a code unit of sixteen bits. -/
  | unit (u : Nat)
  deriving Repr, DecidableEq

/-- Why the content of a string breaks off before a closing quote. -/
inductive StringFault where
  /-- The text ends. -/
  | unfinished
  /-- A control character stands in the string. -/
  | control
  /-- A backslash is followed by nothing that it escapes. -/
  | badEscape
  /-- A backslash and `u` are followed by four bytes that are not all digits. -/
  | badUnit
  deriving Repr, DecidableEq

/-- A token of a JSON text. -/
inductive Token where
  | null
  | boolean (value : Bool)
  | number (numeral : Numeral)
  /-- A string by the pieces of its content, and why it breaks off if it does. -/
  | string (content : List Piece) (fault : Option StringFault)
  | openList
  | closeList
  | openObject
  | closeObject
  | comma
  | colon
  /-- A word that begins as `null`, `true` or `false` does and goes on otherwise, or ends. -/
  | badWord (atEnd : Bool)
  /-- A numeral with a digit missing, or one too many in front, or that ends. -/
  | badNumber (atEnd : Bool)
  /-- A byte with which no token begins. -/
  | stray
  deriving Repr, DecidableEq

/-- Whether nothing can be cut from the text behind the token. -/
def Token.isFaulty (t : Token) : Bool :=
  match t with
  | .string _ fault => fault.isSome
  | .badWord _ => true
  | .badNumber _ => true
  | .stray => true
  | _ => false

/-- The failure of a string that breaks off. -/
def StringFault.failure (f : StringFault) : Failure :=
  match f with
  | .unfinished => .endInString
  | .control => .controlCharacter
  | .badEscape => .invalidEscape
  | .badUnit => .invalidEscape

end Scaffold.Json
