import Scaffold.Yaml.Character

/-!
# Gaps within scalars

A scalar in flow style may continue on further lines. What stands between two of its words is a
gap: spaces and tabs on one line are kept as they are, and line ends are folded, so that one
line end is a space and of several all but the first are kept.
-/

namespace Scaffold.Yaml

/-- What was read between two words of a scalar. -/
inductive Gap where
  /-- Spaces and tabs on one line. -/
  | blanks (cs : List Char)
  /-- Line ends: the first, unless it was escaped, the others, and the column reached. -/
  | lines (first : Option Char) (more : List Char) (column : Nat)
  deriving Repr, DecidableEq

namespace Gap

/-- Nothing between two characters. -/
def none : Gap := .blanks []

/-- Whether the gap spans lines. -/
def isBroken (g : Gap) : Bool :=
  match g with
  | .blanks _ => false
  | .lines .. => true

/-- Whether nothing was read. -/
def isNone (g : Gap) : Bool :=
  g = .none

/-- Whether the gap ends at the start of a line. -/
def atLineStart (g : Gap) : Bool :=
  match g with
  | .lines _ _ 0 => true
  | _ => false

/-- Whether the gap ends on a new line, left of a column. -/
def leftOf (g : Gap) (column : Nat) : Bool :=
  match g with
  | .blanks _ => false
  | .lines _ _ reached => reached < column

/-- The gap with one more space or tab. -/
def addBlank (g : Gap) (c : Char) : Gap :=
  match g with
  | .blanks cs => .blanks (cs ++ [c])
  | .lines first more column => .lines first more (column + 1)

/-- The gap with one more line end. -/
def addBreak (g : Gap) (c : Char) : Gap :=
  match g with
  | .blanks _ => .lines (some c) [] 0
  | .lines first more _ => .lines first (more ++ [c]) 0

/-- The gap behind an escaped line end. -/
def escapedBreak : Gap :=
  .lines .none [] 0

/-- What a gap **stands for** in the text of a scalar. -/
def text (g : Gap) : List Char :=
  match g with
  | .blanks cs => cs
  | .lines .none more _ => more
  | .lines (some '\n') [] _ => [' ']
  | .lines (some '\n') more _ => more
  | .lines (some c) more _ => c :: more

end Gap

end Scaffold.Yaml
