import Scaffold.Layout
import Scaffold.Source.Token

/-!
# Laying out lists

How lists in brackets are laid out. A list that does not fit on its line has one element per
line and a comma behind each of them, the last one included.
-/

namespace Scaffold.Source

open Layout (Doc)

/-- How far each level of nesting is indented. -/
def indentStep : Int := 4

/-- A name as a document. -/
def Name.doc (n : Name) : Doc :=
  .text n.spelling

/-- A lifetime as a document. -/
def Name.lifetimeDoc (n : Name) : Doc :=
  .text ('\'' :: n.spelling)

/-- A literal as a document. -/
def Literal.doc (l : Literal) : Doc :=
  .text l.spelling

/-- The elements of a list, up to the gap that comes before the closing bracket. The gap is that
many blanks wide on one line. -/
def listDocs (blank : Nat) (elements : List (List Doc)) : List Doc :=
  match elements with
  | [] => []
  | [e] => e ++ [.gap { blank, offset := -indentStep, comma := true }]
  | e :: rest => e ++ .ofString "," :: .space :: listDocs blank rest

/-- The elements of a tuple; a single one has a comma in any case. -/
def tupleDocs (elements : List (List Doc)) : List Doc :=
  match elements with
  | [e] => e ++ [.ofString ",", .gap { offset := -indentStep }]
  | elements => listDocs 0 elements

/-- A box around what brackets enclose; nothing if they enclose nothing. -/
def insideBox (indent : Int) (docs : List Doc) : List Doc :=
  if docs.isEmpty then [] else [.box { indent } (.softEnd :: docs)]

/-- Elements separated by commas, between brackets. -/
def bracketed (opener closer : String) (elements : List (List Doc)) : List Doc :=
  .ofString opener :: insideBox indentStep (listDocs 0 elements) ++ [.ofString closer]

/-- The elements of a tuple, in parentheses. -/
def tupleParens (elements : List (List Doc)) : List Doc :=
  .ofString "(" :: insideBox indentStep (tupleDocs elements) ++ [.ofString ")"]

/-- Documents with a text between each two of them. -/
def separatedBy (text : String) (docs : List (List Doc)) : List Doc :=
  match docs with
  | [] => []
  | [d] => d
  | d :: rest => d ++ .ofString text :: separatedBy text rest

end Scaffold.Source
