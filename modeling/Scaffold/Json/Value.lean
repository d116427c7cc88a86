import Scaffold.Json.Text

/-!
# JSON values

Values that the library writes: compact texts without white space, whose objects have their
members in the order given.
-/

namespace Scaffold.Json

/-- A JSON value. -/
inductive Value where
  | null
  | boolean (value : Bool)
  | number (value : Nat)
  | text (value : String)
  | list (values : List Value)
  | object (members : List (String × Value))

namespace Value

/-- Joins texts with commas. -/
def commaSeparated (texts : List (List Char)) : List Char :=
  match texts with
  | [] => []
  | [t] => t
  | t :: rest => t ++ ',' :: commaSeparated rest

mutual

/-- The compact text of a value. -/
def renderChars (v : Value) : List Char :=
  match v with
  | .null => "null".toList
  | .boolean true => "true".toList
  | .boolean false => "false".toList
  | .number n => Nat.toDigits 10 n
  | .text s => quoteChars s.toList
  | .list values => '[' :: commaSeparated (renderAll values) ++ [']']
  | .object members => '{' :: commaSeparated (renderMembers members) ++ ['}']

/-- The texts of the elements of a list. -/
def renderAll (values : List Value) : List (List Char) :=
  match values with
  | [] => []
  | v :: rest => renderChars v :: renderAll rest

/-- The texts of the members of an object. -/
def renderMembers (members : List (String × Value)) : List (List Char) :=
  match members with
  | [] => []
  | (name, v) :: rest => (quoteChars name.toList ++ ':' :: renderChars v) :: renderMembers rest

end

/-- The compact text of a value. -/
def render (v : Value) : String :=
  String.ofList v.renderChars

end Value

end Scaffold.Json
