import Scaffold.Yaml.Character

/-!
# Block scalars

A block scalar is a number of indented lines behind a header. The header says whether line ends
are kept (`|`) or folded (`>`), what becomes of the line ends behind the last line, and by how
much the lines are indented; if it does not say so, the first line that is not empty shows it.

## Main definitions

* `Block.read` - the text of a block scalar, from behind its first mark, and what follows it.
-/

namespace Scaffold.Yaml.Block

/-- What becomes of the line ends behind the last line that is not empty. -/
inductive Chomp where
  /-- None is kept. -/
  | strip
  /-- The first is kept. -/
  | clip
  /-- All are kept. -/
  | keep
  deriving Repr, DecidableEq

/-- What the header of a block scalar says. -/
structure Header where
  /-- What becomes of the last line ends. -/
  chomp : Chomp := .clip
  /-- By how much the lines are indented, if it is said. -/
  indent : Option Nat := none
  deriving Repr, DecidableEq

/-- The digit from one to nine that a character is. -/
def indentDigit? (c : Char) : Option Nat :=
  if '1' ≤ c ∧ c ≤ '9' then some (c.toNat - '0'.toNat) else none

/-- The sign for the last line ends that a character is. -/
def chomp? (c : Char) : Option Chomp :=
  match c with
  | '+' => some .keep
  | '-' => some .strip
  | _ => none

/-- The marks of a header, in either order, and what follows them. -/
def readMarks (cs : List Char) : Header × List Char :=
  match cs with
  | [] => ({}, [])
  | c :: rest =>
    match chomp? c, indentDigit? c with
    | some chomp, _ =>
      match rest.head?.bind indentDigit? with
      | some n => (⟨chomp, some n⟩, rest.drop 1)
      | none => (⟨chomp, none⟩, rest)
    | none, some n =>
      match rest.head?.bind chomp? with
      | some chomp => (⟨chomp, some n⟩, rest.drop 1)
      | none => (⟨.clip, some n⟩, rest)
    | none, none => ({}, cs)

/-- The deepest column that spaces reach up to the first line that is not empty. There must be
no tab in front of it. -/
def deepest? (column most : Nat) (cs : List Char) : Option Nat :=
  match cs with
  | [] => some (max column most)
  | c :: rest =>
    if c = ' ' then deepest? (column + 1) most rest
    else if isBreak c then deepest? 0 (max column most) rest
    else if c = '\t' then none
    else some (max column most)

/-- What stands between two lines that are not empty. -/
structure Pending where
  /-- The end of the last line. -/
  lineEnd : Option Char := none
  /-- The ends of the empty lines behind it. -/
  empty : List Char := []
  /-- Whether the last line began with a blank. -/
  afterBlank : Bool := false
  deriving Repr, DecidableEq

/-- What stands for line ends before a line: folded, a line feed between two lines that do not
begin with a blank is a space, or nothing if empty lines follow it. -/
def Pending.text (folded : Bool) (p : Pending) (beforeBlank : Bool) : List Char :=
  if folded && p.lineEnd = some '\n' && !p.afterBlank && !beforeBlank then
    if p.empty.isEmpty then [' '] else p.empty
  else
    p.lineEnd.toList ++ p.empty

/-- What stands for the line ends behind the last line. -/
def Pending.tail (chomp : Chomp) (p : Pending) : List Char :=
  match chomp with
  | .strip => []
  | .clip => p.lineEnd.toList
  | .keep => p.lineEnd.toList ++ p.empty

/-- Where the reader stands in a line. -/
inductive State where
  /-- In front of it, at a column that is at most that of the block. -/
  | margin (column : Nat) (pending : Pending)
  /-- Within it. -/
  | line (startsBlank : Bool)
  deriving Repr, DecidableEq

/-- Reads on from a state, with the lines indented by `n`. -/
def readFrom (folded : Bool) (chomp : Chomp) (n : Nat) (s : State) (cs : List Char) :
    Option (List Char × List Char) :=
  match cs with
  | [] =>
    match s with
    | .margin _ p => some (p.tail chomp, [])
    | .line _ => some ([], [])
  | c :: rest =>
    match s with
    | .line startsBlank =>
      if isBreak c then
        readFrom folded chomp n (.margin 0 ⟨some c, [], startsBlank⟩) rest
      else
        (readFrom folded chomp n s rest).map fun (text, rest) => (c :: text, rest)
    | .margin column p =>
      if isBreak c then
        readFrom folded chomp n (.margin 0 { p with empty := p.empty ++ [c] }) rest
      else if n ≤ column then
        (readFrom folded chomp n (.line (isGap c)) rest).map fun (text, rest) =>
          (p.text folded (isGap c) ++ c :: text, rest)
      else if c = ' ' then
        readFrom folded chomp n (.margin (column + 1) p) rest
      else if c = '\t' then
        none
      else
        some (p.tail chomp, cs)

/-- The column of the lines of a block scalar that stands in a block at the column `outer`, or in
none: further to the right than that block, as the header says or as the lines show. -/
def column? (outer indent : Option Nat) (cs : List Char) : Option Nat :=
  match indent with
  | some n => some (outer.getD 0 + n)
  | none => (deepest? 0 0 cs).map fun most => max most (max (outer.elim 0 (· + 1)) 1)

/-- Reads a **block scalar** from behind its first mark. -/
def read (folded : Bool) (outer : Option Nat) (cs : List Char) :
    Option (List Char × List Char) := do
  let (header, rest) := readMarks cs
  let rest ← afterLine? rest
  let n ← column? outer header.indent rest
  readFrom folded header.chomp n (.margin 0 {}) rest

end Scaffold.Yaml.Block
