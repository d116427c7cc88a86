import Scaffold.Source.Syntax
import Scaffold.Source.Writer.Basic

/-!
# Laying out paths and types

Types break only within the brackets of their arguments, elements and parameters; the traits of
an object stay on one line.
-/

namespace Scaffold.Source

open Layout (Doc)

/-- Whether an argument is a lifetime. Those come before all others. -/
def Argument.isLifetime (a : Argument) : Bool :=
  match a with
  | .lifetime _ => true
  | _ => false

/-- Values whose mark is set before all others. -/
def markedFirst (values : List (Bool × α)) : List α :=
  ((values.filter (·.1)) ++ values.filter (!·.1)).map (·.2)

mutual

/-- A name in a path, laid out. In an expression the arguments are marked off. -/
def Segment.docs (inExpression : Bool) (s : Segment) : List Doc :=
  match s with
  | .mk n [] => [n.doc]
  | .mk n as =>
    n.doc :: (if inExpression then [.ofString "::"] else []) ++
      bracketed "<" ">" (markedFirst (argumentDocs as))

/-- The further names in a path, laid out. -/
def segmentDocs (inExpression : Bool) (ss : List Segment) : List Doc :=
  match ss with
  | [] => []
  | s :: rest => .ofString "::" :: s.docs inExpression ++ segmentDocs inExpression rest

/-- A path, laid out. -/
def Path.docs (inExpression : Bool) (p : Path) : List Doc :=
  match p with
  | .mk true ss => segmentDocs inExpression ss
  | .mk false [] => []
  | .mk false (s :: rest) => s.docs inExpression ++ segmentDocs inExpression rest

/-- A generic argument, laid out. -/
def Argument.docs (a : Argument) : List Doc :=
  match a with
  | .lifetime n => [n.lifetimeDoc]
  | .type t => t.docs
  | .literal l => [l.doc]

/-- Generic arguments, laid out, and whether they are lifetimes. -/
def argumentDocs (as : List Argument) : List (Bool × List Doc) :=
  match as with
  | [] => []
  | a :: rest => (a.isLifetime, a.docs) :: argumentDocs rest

/-- A bound, laid out. -/
def Bound.docs (b : Bound) : List Doc :=
  match b with
  | .lifetime n => [n.lifetimeDoc]
  | .trait enclosed optional p =>
    (if enclosed then [.ofString "("] else []) ++ (if optional then [.ofString "?"] else []) ++
      p.docs false ++ (if enclosed then [.ofString ")"] else [])

/-- Bounds, laid out. -/
def boundDocs (bs : List Bound) : List (List Doc) :=
  match bs with
  | [] => []
  | b :: rest => b.docs :: boundDocs rest

/-- A type, laid out. -/
def TypeTerm.docs (t : TypeTerm) : List Doc :=
  match t with
  | .path p => p.docs false
  | .reference name mutable target =>
    .ofString "&" :: (match name with
      | some n => [n.lifetimeDoc, .ofString " "]
      | none => []) ++
    (if mutable then [.ofString "mut "] else []) ++ target.docs
  | .pointer mutable target =>
    .ofString "*" :: .ofString (if mutable then "mut " else "const ") :: target.docs
  | .slice element => .ofString "[" :: element.docs ++ [.ofString "]"]
  | .array element length =>
    .ofString "[" :: element.docs ++ [.ofString "; ", length.doc, .ofString "]"]
  | .tuple elements => tupleParens (typeDocs elements)
  | .enclosed t => .ofString "(" :: t.docs ++ [.ofString ")"]
  | .procedure parameters => .ofString "fn" :: bracketed "(" ")" (typeDocs parameters)
  | .function parameters result =>
    .ofString "fn" :: bracketed "(" ")" (typeDocs parameters) ++ .ofString " -> " :: result.docs
  | .object bounds => .ofString "dyn " :: separatedBy " + " (boundDocs bounds)
  | .never => [.ofString "!"]
  | .inferred => [.ofString "_"]

/-- Types, laid out. -/
def typeDocs (ts : List TypeTerm) : List (List Doc) :=
  match ts with
  | [] => []
  | t :: rest => t.docs :: typeDocs rest

end

/-! ### Generic declarations -/

/-- Further bounds of a parameter, each behind a gap and a plus sign. -/
def moreBoundDocs (bounds : List (List Doc)) : List Doc :=
  bounds.flatMap fun b => .space :: .ofString "+ " :: b

/-- The bounds of a parameter behind its name. -/
def parameterBoundDocs (bounds : List (List Doc)) : List Doc :=
  match bounds with
  | [] => []
  | b :: rest => .ofString ": " :: b ++ moreBoundDocs rest

/-- Whether a parameter is a lifetime. -/
def GenericParameter.isLifetime (p : GenericParameter) : Bool :=
  match p with
  | .lifetime .. => true
  | _ => false

/-- A parameter of a generic declaration, laid out. -/
def GenericParameter.docs (p : GenericParameter) : List Doc :=
  match p with
  | .lifetime n bounds =>
    n.lifetimeDoc :: (if bounds.isEmpty then [] else
      .ofString ": " :: separatedBy " + " (bounds.map fun b => [b.lifetimeDoc]))
  | .type n bounds default =>
    [n.doc, .box { filled := true, indent := indentStep }
      (parameterBoundDocs (boundDocs bounds) ++ (match default with
        | some t => .space :: .ofString "= " :: t.docs
        | none => []))]
  | .constant n t => .ofString "const " :: n.doc :: .ofString ": " :: t.docs

/-- The parameters of a generic declaration, laid out. -/
def genericDocs (ps : List GenericParameter) : List Doc :=
  if ps.isEmpty then
    []
  else
    .ofString "<" ::
      insideBox 0 (listDocs 0 (markedFirst (ps.map fun p => (p.isLifetime, p.docs)))) ++
      [.ofString ">"]

/-- A condition, laid out. -/
def Condition.docs (c : Condition) : List Doc :=
  c.type.docs ++ [.ofString ":",
    .box { filled := true, indent := if c.bounds.length = 1 then 0 else indentStep }
      (match boundDocs c.bounds with
      | [] => []
      | b :: rest => .ofString " " :: b ++ moreBoundDocs rest)]

/-- The lines of conditions up to the first of them. -/
def whereDocs : List Doc :=
  [.gap { blank := Layout.endless, offset := -indentStep }, .ofString "where", .lineEnd]

/-- Conditions in front of a body. -/
def bodyConditionDocs (cs : List Condition) : List Doc :=
  if cs.isEmpty then
    [.ofString " "]
  else
    whereDocs ++
      Layout.outdented indentStep (cs.flatMap fun c => c.docs ++ [.ofString ",", .lineEnd])

/-- Conditions in front of a semicolon, and the semicolon. -/
def endConditionDocs (cs : List Condition) : List Doc :=
  if cs.isEmpty then
    [.ofString ";"]
  else
    whereDocs ++ listLines (cs.map Condition.docs) ++ [.ofString ";"]
where
  /-- Conditions on lines of their own. -/
  listLines (docs : List (List Doc)) : List Doc :=
    match docs with
    | [] => []
    | [d] => d
    | d :: rest => d ++ .ofString "," :: .lineEnd :: listLines rest

end Scaffold.Source
