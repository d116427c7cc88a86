import Scaffold.Json.Skip
import Scaffold.Json.Text

/-!
# Reading typed values

Readers that take a value of a known shape from the front of the tokens. A reader fails at the
first token that it cannot use, so that of several faults in a text the foremost is reported.

A record is given by its fields. It is written as an object, whose members may come in any
order, or as a list, whose elements are the fields in their order with the last ones left out.
A field may be given once in an object, under its name or an alias of it; members under other
names are skipped.

## Main definitions

* `Reader` - a reader of values of one type.
* `text`, `boolean`, `listOf`, `mapOf`, `record` - the shapes.
* `orNull` - a shape for which null stands too.
* `whole` - tokens that are one value and nothing else.
-/

namespace Scaffold.Json

/-- Reads a value from the front of the tokens and gives those behind it. -/
abbrev Reader (α : Type) := List Token → Except Failure (α × List Token)

/-- The kind of value with which the tokens begin, as it is worded where another is expected;
a failure of its own where they begin with none. -/
def foundIn (ts : List Token) : Except Failure Found :=
  match ts with
  | [] => .error .endInValue
  | .null :: _ => .ok .null
  | .boolean b :: _ => .ok (.boolean b)
  | .number n :: _ => n.found
  | .string pieces fault :: _ => (textOf pieces fault).map .text
  | .openList :: _ => .ok .sequence
  | .openObject :: _ => .ok .map
  | .badWord atEnd :: _ => .error (if atEnd then .endInValue else .expectedWord)
  | .badNumber atEnd :: _ => .error (if atEnd then .endInValue else .invalidNumber)
  | _ => .error .expectedValue

/-- Refuses what the tokens begin with. -/
def refuse (expected : Expected) : Reader α := fun ts =>
  (foundIn ts).bind fun found => .error (.wrongType found expected)

/-- Reads a text. -/
def text : Reader String := fun ts =>
  match ts with
  | .string pieces fault :: rest => (textOf pieces fault).map (·, rest)
  | ts => refuse .text ts

/-- Reads a truth value. -/
def boolean : Reader Bool := fun ts =>
  match ts with
  | .boolean b :: rest => .ok (b, rest)
  | ts => refuse .boolean ts

/-- Reads null as a given value, and anything else as `r` does. -/
def orNull (blank : α) (r : Reader α) : Reader α := fun ts =>
  match ts with
  | .null :: rest => .ok (blank, rest)
  | ts => r ts

/-- Reads null as `none`, and anything else as `r` does. -/
def optional (r : Reader α) : Reader (Option α) :=
  orNull none fun ts => (r ts).map fun (a, rest) => (some a, rest)

/-- Reads the elements of a list up to the closing bracket. -/
def elements (n : Nat) (r : Reader α) (first : Bool) : Reader (List α) := fun ts =>
  match n, ts with
  | _, [] => .error .endInList
  | _, .closeList :: rest => .ok ([], rest)
  | 0, _ => .error .endInList
  | n + 1, t :: rest =>
    let element (ts : List Token) : Except Failure (List α × List Token) :=
      (r ts).bind fun (a, rest) =>
        (elements n r false rest).map fun (as, rest) => (a :: as, rest)
    if first then
      element (t :: rest)
    else if t = .comma then
      match rest with
      | [] => .error .endInValue
      | .closeList :: _ => .error .trailingComma
      | rest => element rest
    else
      .error .expectedCommaOrBracket

/-- Reads a list. -/
def listOf (r : Reader α) : Reader (List α) := fun ts =>
  match ts with
  | .openList :: rest => elements rest.length r true rest
  | ts => refuse .sequence ts

/-- Reads the colon behind a key. -/
def colon (ts : List Token) : Except Failure (List Token) :=
  match ts with
  | [] => .error .endInObject
  | .colon :: rest => .ok rest
  | _ => .error .expectedColon

/-- Reads a member of an object. `reader` says from its key whether and how its value is
read. -/
def member (reader : σ → String → Except Failure (Reader σ)) (s : σ) : Reader σ := fun ts =>
  match ts with
  | .string pieces fault :: rest => do
    let key ← textOf pieces fault
    let r ← reader s key
    let rest ← colon rest
    r rest
  | _ => .error .keyNotString

/-- Reads the members of an object up to the closing brace. -/
def members (n : Nat) (reader : σ → String → Except Failure (Reader σ)) (first : Bool)
    (s : σ) : Reader σ := fun ts =>
  match n, ts with
  | _, [] => .error .endInObject
  | _, .closeObject :: rest => .ok (s, rest)
  | 0, _ => .error .endInObject
  | n + 1, t :: rest =>
    let memberAndMore (ts : List Token) : Except Failure (σ × List Token) :=
      (member reader s ts).bind fun (s, rest) => members n reader false s rest
    if first then
      memberAndMore (t :: rest)
    else if t = .comma then
      match rest with
      | [] => .error .endInValue
      | .closeObject :: _ => .error .trailingComma
      | rest => memberAndMore rest
    else
      .error .expectedCommaOrBrace

/-- Reads an object whose members all have one shape, adding them to `empty` in turn. -/
def mapOf (empty : σ) (insert : σ → String → α → σ) (r : Reader α) : Reader σ := fun ts =>
  match ts with
  | .openObject :: rest =>
    members rest.length
      (fun s key => .ok fun ts => (r ts).map fun (a, rest) => (insert s key a, rest))
      true empty rest
  | ts => refuse .map ts

/-- A field of a record. -/
structure Field (σ : Type) where
  /-- The name of the field. -/
  name : String
  /-- Other names for it. -/
  aliases : List String := []
  /-- Reads the field's value into the record. -/
  read : σ → Reader σ

/-- Whether a key names the field. -/
def Field.accepts (f : Field σ) (key : String) : Bool :=
  key == f.name || f.aliases.contains key

/-- How the member under a key is read, with the names of the fields seen before. -/
def readerFor (fields : List (Field σ)) (s : σ × List String) (key : String) :
    Except Failure (Reader (σ × List String)) :=
  match fields.find? (·.accepts key) with
  | none => .ok fun ts => (skip ts).map fun rest => (s, rest)
  | some f =>
    if s.2.contains f.name then
      .error (.duplicateField f.name)
    else
      .ok fun ts => (f.read s.1 ts).map fun (r, rest) => ((r, f.name :: s.2), rest)

/-- Reads the end of a list that gives every field of a record. -/
def listEnd (s : σ) : Reader σ := fun ts =>
  match ts with
  | [] => .error .endInList
  | .closeList :: rest => .ok (s, rest)
  | .comma :: .closeList :: _ => .error .trailingComma
  | _ => .error .trailingCharacters

/-- Reads the fields of a record from a list, in their order. -/
def positional (fields : List (Field σ)) (first : Bool) (s : σ) : Reader σ := fun ts =>
  match fields, ts with
  | [], ts => listEnd s ts
  | _, [] => .error .endInList
  | _, .closeList :: rest => .ok (s, rest)
  | f :: fields, t :: rest =>
    let field (ts : List Token) : Except Failure (σ × List Token) :=
      (f.read s ts).bind fun (s, rest) => positional fields false s rest
    if first then
      field (t :: rest)
    else if t = .comma then
      match rest with
      | [] => .error .endInValue
      | .closeList :: _ => .error .trailingComma
      | rest => field rest
    else
      .error .expectedCommaOrBracket

/-- Reads a record: fields that are not given keep their value in `blank`. -/
def record (label : String) (fields : List (Field σ)) (blank : σ) : Reader σ := fun ts =>
  match ts with
  | .openObject :: rest =>
    (members rest.length (readerFor fields) true (blank, []) rest).map
      fun (s, rest) => (s.1, rest)
  | .openList :: rest => positional fields true blank rest
  | ts => refuse (.record label) ts

/-- Reads tokens that are one value and nothing else. -/
def whole (r : Reader α) (ts : List Token) : Except Failure α :=
  (r ts).bind fun (a, rest) => if rest.isEmpty then .ok a else .error .trailingCharacters

end Scaffold.Json
