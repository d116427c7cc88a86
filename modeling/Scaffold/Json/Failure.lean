import Scaffold.Text.Quoted

/-!
# Why a text is not the JSON that was expected

The causes for which a JSON text is refused, each with its wording. A cause is either a fault
of the syntax, a value of another kind than the one expected, or a field that is given twice.
-/

namespace Scaffold.Json

/-- The kind of value that was found. -/
inductive Found where
  | null
  | boolean (value : Bool)
  | integer (value : Int)
  | float (digits : String)
  | text (value : String)
  | sequence
  | map
  deriving Repr, DecidableEq

/-- The kind of value that was expected. -/
inductive Expected where
  | text
  | boolean
  | sequence
  | map
  /-- A record, by the name of its type. -/
  | record (name : String)
  deriving Repr, DecidableEq

/-- Why a text is refused. -/
inductive Failure where
  | endInValue
  | endInList
  | endInObject
  | endInString
  | expectedValue
  | expectedWord
  | expectedColon
  | expectedCommaOrBracket
  | expectedCommaOrBrace
  | keyNotString
  | trailingComma
  | trailingCharacters
  | invalidNumber
  | numberOutOfRange
  | invalidEscape
  | controlCharacter
  | loneSurrogate
  | unfinishedPair
  | invalidCodePoint
  | wrongType (found : Found) (expected : Expected)
  | duplicateField (name : String)
  deriving Repr, DecidableEq

/-- The wording for a value that was found. -/
def Found.message (f : Found) : String :=
  match f with
  | .null => "null"
  | .boolean value => "boolean `" ++ toString value ++ "`"
  | .integer value => "integer `" ++ toString value ++ "`"
  | .float digits => "floating point `" ++ digits ++ "`"
  | .text value => "string " ++ Text.quote value
  | .sequence => "sequence"
  | .map => "map"

/-- The wording for what was expected. -/
def Expected.message (e : Expected) : String :=
  match e with
  | .text => "a string"
  | .boolean => "a boolean"
  | .sequence => "a sequence"
  | .map => "a map"
  | .record name => "struct " ++ name

/-- The wording of a failure. -/
def Failure.message (f : Failure) : String :=
  match f with
  | .endInValue => "EOF while parsing a value"
  | .endInList => "EOF while parsing a list"
  | .endInObject => "EOF while parsing an object"
  | .endInString => "EOF while parsing a string"
  | .expectedValue => "expected value"
  | .expectedWord => "expected ident"
  | .expectedColon => "expected `:`"
  | .expectedCommaOrBracket => "expected `,` or `]`"
  | .expectedCommaOrBrace => "expected `,` or `\x7d`"
  | .keyNotString => "key must be a string"
  | .trailingComma => "trailing comma"
  | .trailingCharacters => "trailing characters"
  | .invalidNumber => "invalid number"
  | .numberOutOfRange => "number out of range"
  | .invalidEscape => "invalid escape"
  | .controlCharacter => "control character (\\u0000-\\u001F) found while parsing a string"
  | .loneSurrogate => "lone leading surrogate in hex escape"
  | .unfinishedPair => "unexpected end of hex escape"
  | .invalidCodePoint => "invalid unicode code point"
  | .wrongType found expected =>
    "invalid type: " ++ found.message ++ ", expected " ++ expected.message
  | .duplicateField name => "duplicate field `" ++ name ++ "`"

end Scaffold.Json
