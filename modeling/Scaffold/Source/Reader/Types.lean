import Scaffold.Source.Reader.Basic
import Scaffold.Source.Syntax

/-!
# Reading paths and types

Paths come in two styles: in an expression, generic arguments have to be marked off by `::`,
since a bare angle bracket is an operator there. Types nest, and are read with a bound on the
depth; each level takes a token, so the number of tokens bounds it.

## Main definitions

* `Reader.path` - reads a path.
* `Reader.typeTerm` - reads a type.
* `Reader.generics` - reads the parameters of a generic declaration.
-/

namespace Scaffold.Source.Reader

/-! ### Paths -/

/-- The keywords that may stand in a path without arguments. -/
def pathWords : List String :=
  ["super", "self", "crate", "try"]

/-- Whether generic arguments follow, in an expression or elsewhere. -/
def startsArguments (inExpression : Bool) (ts : List Token) : Bool :=
  match afterMarks? "::".toList ts with
  | some rest => startsMarks "<" rest
  | none => !inExpression && startsMarks "<" ts && !startsMarks "<=" ts

/-- Reads a generic argument. -/
def argument (type : Reader TypeTerm) : Reader Argument := do
  match ← get with
  | .lifetime _ :: _ => return .lifetime (← lifetime)
  | .literal _ :: _ => return .literal (← literal)
  | _ => return .type (← type)

/-- Reads generic arguments with their angle brackets. -/
def arguments (type : Reader TypeTerm) : Reader (List Argument) := do
  let _ ← optionalMarks "::"
  marks "<"
  let as ← commaList (startsMarks ">") (argument type)
  marks ">"
  return as

/-- Reads a name in a path, with its arguments. -/
def segment (inExpression : Bool) (type : Reader TypeTerm) : Reader Segment := do
  if ← ahead (startsAnyOf pathWords) then
    return .mk (← anyName) []
  else
    let n ← if ← ahead (startsWord "Self") then anyName else identifier
    if ← ahead (startsArguments inExpression) then
      return .mk n (← arguments type)
    else
      return .mk n []

/-- Whether a further name of a path follows. -/
def startsSegment (ts : List Token) : Bool :=
  match afterMarks? "::".toList ts with
  | some rest => !startsOpening .paren rest
  | none => false

/-- Reads a path. -/
def path (inExpression : Bool) (type : Reader TypeTerm) : Reader Path := do
  let rooted ← optionalMarks "::"
  let first ← segment inExpression type
  let rest ← many startsSegment do
    marks "::"
    segment inExpression type
  return .mk rooted (first :: rest)

/-! ### Bounds -/

/-- Whether a bound follows a plus sign. -/
def startsBound (ts : List Token) : Bool :=
  match ts with
  | .name _ :: _ => true
  | .lifetime _ :: _ => true
  | .opening .paren :: _ => true
  | ts => startsMarks "?" ts || startsMarks "::" ts

/-- Reads a trait as a bound. -/
def traitBound (enclosed : Bool) (type : Reader TypeTerm) : Reader Bound := do
  let optional ← optionalMarks "?"
  return .trait enclosed optional (← path false type)

/-- Reads a bound. -/
def bound (type : Reader TypeTerm) : Reader Bound := do
  match ← get with
  | .lifetime _ :: _ => return .lifetime (← lifetime)
  | .opening .paren :: _ => within .paren (traitBound true type)
  | _ => traitBound false type

/-- Reads the bounds behind a first one, each behind a plus sign; the last sign may have none
behind it. -/
def moreBounds (type : Reader TypeTerm) : Reader (List Bound) := do
  let groups ← many (startsMarks "+") do
    marks "+"
    if ← ahead startsBound then return [← bound type] else return []
  return groups.flatten

/-! ### Types -/

/-- Reads the rest of a reference. -/
def reference (target : Reader TypeTerm) : Reader TypeTerm := do
  marks "&"
  let name ← match ← get with
    | .lifetime _ :: _ => some <$> lifetime
    | _ => pure none
  let mutable ← optionalWord "mut"
  return .reference name mutable (← target)

/-- Reads a pointer. -/
def pointer (target : Reader TypeTerm) : Reader TypeTerm := do
  marks "*"
  let mutable ← optionalWord "mut"
  if !mutable then
    word "const"
  return .pointer mutable (← target)

/-- Reads a slice or an array. -/
def slice (element : Reader TypeTerm) : Reader TypeTerm :=
  within .bracket do
    let t ← element
    if ← optionalMarks ";" then
      return .array t (← literal)
    else
      return .slice t

/-- Reads what parentheses enclose: a type without a comma behind it, or the elements of a
tuple. -/
def tuple (element : Reader TypeTerm) : Reader TypeTerm :=
  within .paren do
    if ← ahead startsClosing then
      return .tuple []
    let first ← element
    if ← optionalMarks "," then
      return .tuple (first :: (← commaList startsClosing element))
    else
      return .enclosed first

/-- Reads the type of a function. -/
def functionType (parameter result : Reader TypeTerm) : Reader TypeTerm := do
  word "fn"
  let ps ← listWithin .paren parameter
  if ← optionalMarks "->" then
    return .function ps (← result)
  else
    return .procedure ps

/-- Reads what traits a value is known by. -/
def object (several : Bool) (type : Reader TypeTerm) : Reader TypeTerm := do
  word "dyn"
  let first ← bound type
  let bounds ← if several then (first :: ·) <$> moreBounds type else pure [first]
  require (bounds.any Bound.isTrait)
  return .object bounds

/-- Reads a path as a type. Where several bounds may stand, a plus sign behind it makes it the
first of them. -/
def named (several : Bool) (type : Reader TypeTerm) : Reader TypeTerm := do
  let p ← path false type
  if several && (← ahead (startsMarks "+")) then
    return .object (.trait false false p :: (← moreBounds type))
  else
    return .path p

/-- Reads a type of at most `n` levels. Without `several`, a plus sign ends it. -/
def typeWithin (n : Nat) (several : Bool) : Reader TypeTerm :=
  match n with
  | 0 => failure
  | n + 1 => do
    let ts ← get
    if startsOpening .paren ts then
      tuple (typeWithin n true)
    else if startsOpening .bracket ts then
      slice (typeWithin n true)
    else if startsMarks "&" ts then
      reference (typeWithin n false)
    else if startsMarks "*" ts then
      pointer (typeWithin n false)
    else if startsMarks "!" ts && !startsMarks "!=" ts then
      marks "!"
      return .never
    else if startsWord "_" ts then
      word "_"
      return .inferred
    else if startsWord "fn" ts then
      functionType (typeWithin n true) (typeWithin n false)
    else if startsWord "dyn" ts then
      object several (typeWithin n true)
    else
      named several (typeWithin n true)

/-- Reads a type. -/
def typeTerm : Reader TypeTerm := do
  typeWithin ((← get).length + 1) true

/-! ### Generic declarations -/

/-- Whether the bounds of a parameter end. -/
def endsBounds (ts : List Token) : Bool :=
  startsMarks "," ts || startsMarks ">" ts || startsMarks "=" ts

/-- Reads bounds between plus signs, until a test says that they end. -/
def boundsUntil (atEnd : List Token → Bool) (r : Reader α) : Reader (List α) := do
  if ← ahead atEnd then
    return []
  let first ← r
  let groups ← many (startsMarks "+") do
    marks "+"
    if ← ahead atEnd then return [] else return [← r]
  return first :: groups.flatten

/-- Reads a parameter of a generic declaration. -/
def genericParameter : Reader GenericParameter := do
  match ← get with
  | .lifetime _ :: _ =>
    let n ← lifetime
    let bounds ← if ← optionalMarks ":" then boundsUntil endsBounds lifetime else pure []
    return .lifetime n bounds
  | ts =>
    if startsWord "const" ts then
      word "const"
      let n ← identifier
      marks ":"
      return .constant n (← typeTerm)
    else
      let n ← identifier
      let bounds ← if ← optionalMarks ":" then boundsUntil endsBounds (bound typeTerm) else pure []
      let default ← if ← optionalMarks "=" then some <$> typeTerm else pure none
      return .type n bounds default

/-- Reads the parameters of a generic declaration, if there are any. -/
def genericParameters : Reader (List GenericParameter) := do
  if ← optionalMarks "<" then
    let ps ← commaList (startsMarks ">") genericParameter
    marks ">"
    return ps
  else
    return []

/-- Whether the conditions of a declaration, or the bounds of one of them, end. -/
def endsCondition (ts : List Token) : Bool :=
  ts.isEmpty || startsOpening .brace ts || startsMarks "," ts || startsMarks ";" ts
    || (startsMarks ":" ts && !startsMarks "::" ts) || startsMarks "=" ts

/-- Reads a condition. -/
def condition : Reader Condition := do
  let t ← typeTerm
  marks ":"
  return ⟨t, ← boundsUntil endsCondition (bound typeTerm)⟩

/-- Whether the conditions of a declaration end. -/
def endsConditions (ts : List Token) : Bool :=
  !startsMarks "," ts && endsCondition ts

/-- Reads the conditions of a generic declaration, if there are any. -/
def conditions : Reader (List Condition) := do
  if ← optionalWord "where" then
    commaList endsConditions condition
  else
    return []

end Scaffold.Source.Reader
