import Scaffold.Yaml.Scalar.Block
import Scaffold.Yaml.Scalar.Plain
import Scaffold.Yaml.Scalar.Quoted
import Scaffold.Yaml.Token.Property

/-!
# Cutting YAML texts into tokens

The lexer keeps the columns of the blocks that it is in, and for every open collection the
token that would be a mapping key if a colon followed. When the colon comes, a key token is
put in front of that token. A key has to stand on one line with its colon, and not too far in
front of it; a token at the column of its block must be a key.

## Main definitions

* `Lexer.State` - what the lexer keeps.
* `Lexer.fetch` - reads one token.
* `tokens?` - the tokens of a text.
-/

namespace Scaffold.Yaml

namespace Lexer

/-- A token that would be a mapping key if a colon followed. -/
structure Candidate where
  /-- How many tokens stand in front of it. -/
  index : Nat
  /-- The line on which it begins. -/
  line : Nat
  /-- The column at which it begins. -/
  column : Nat
  /-- Whether it must be a key. -/
  required : Bool
  deriving Repr, DecidableEq

/-- What the lexer keeps while it reads. -/
structure State where
  /-- What is left to read. -/
  rest : List Char
  /-- The line reached. -/
  line : Nat := 0
  /-- The column reached. -/
  column : Nat := 0
  /-- The columns of the blocks, from the innermost to the outermost. -/
  indents : List Nat := []
  /-- The candidate of the innermost collection. -/
  candidate : Option Candidate := none
  /-- The candidates of the collections around the flow collections that are open. -/
  outer : List (Option Candidate) := []
  /-- Whether a candidate may begin here. -/
  keyAllowed : Bool := true
  /-- The tokens so far, the last one first. -/
  tokens : List Token := []
  deriving Repr, DecidableEq

namespace State

/-- Whether a flow collection is open. -/
def inFlow (s : State) : Bool :=
  !s.outer.isEmpty

/-- The column of the innermost block. -/
def indent? (s : State) : Option Nat :=
  s.indents.head?

/-- The least column that the further lines of a plain scalar must reach. -/
def minimum (s : State) : Nat :=
  s.indent?.elim 0 (· + 1)

/-- Moves over one character. -/
def pass (s : State) (c : Char) : State :=
  if isBreak c then { s with line := s.line + 1, column := 0 }
  else { s with column := s.column + 1 }

/-- Moves on to where a part of the text remains. -/
def moveTo (s : State) (rest : List Char) : State :=
  { (s.rest.take (s.rest.length - rest.length)).foldl pass s with rest := rest }

/-- Adds a token. -/
def push (s : State) (t : Token) : State :=
  { s with tokens := t :: s.tokens }

/-- Adds a token behind the first `index` ones. -/
def insert (s : State) (index : Nat) (t : Token) : State :=
  let behind := s.tokens.length - index
  { s with tokens := s.tokens.take behind ++ t :: s.tokens.drop behind }

/-- Ends the blocks whose columns do not stay. Within a flow collection no block ends. -/
def close (s : State) (stays : Nat → Bool) : State :=
  if s.inFlow then s
  else
    { s with
      indents := s.indents.dropWhile (!stays ·)
      tokens := (s.indents.takeWhile (!stays ·)).map (fun _ => Token.blockEnd) ++ s.tokens }

/-- Begins a block at a column, unless one at this column or further right is open. Its token
goes behind the first `index` ones. -/
def begin (s : State) (column index : Nat) (t : Token) : State :=
  if !s.inFlow && s.indent?.all (· < column) then
    { s.insert index t with indents := column :: s.indents }
  else
    s

/-- Gives the candidate up; `none` if it must be a key. -/
def dropCandidate (s : State) : Option State :=
  if s.candidate.any (·.required) then none else some { s with candidate := none }

/-- The token that begins here as a candidate. -/
def here (s : State) : Candidate where
  index := s.tokens.length
  line := s.line
  column := s.column
  required := !s.inFlow && s.indent? = some s.column

/-- Makes the token that begins here a candidate, if one may begin here. -/
def saveCandidate (s : State) : Option State :=
  if s.keyAllowed then s.dropCandidate.map fun s => { s with candidate := some s.here }
  else some s

/-- Says whether a candidate may begin next. -/
def allow (s : State) (b : Bool) : State :=
  { s with keyAllowed := b }

end State

/-! ### Between tokens -/

/-- Skips blanks, comments and line ends: whether a candidate may begin behind them, and what
follows them. A tab does not count as a blank where a candidate may begin. -/
def skipFrom (inFlow keyAllowed inComment : Bool) (column : Nat) (cs : List Char) :
    Bool × List Char :=
  match cs with
  | [] => (keyAllowed, [])
  | c :: rest =>
    if isBreak c then skipFrom inFlow (keyAllowed || !inFlow) false 0 rest
    else if inComment || (column = 0 && c = byteOrderMark) || c = ' '
        || ((inFlow || !keyAllowed) && c = '\t') then
      skipFrom inFlow keyAllowed inComment (column + 1) rest
    else if c = '#' then skipFrom inFlow keyAllowed true (column + 1) rest
    else (keyAllowed, c :: rest)

/-- Moves on to the next token. -/
def skip (s : State) : State :=
  let (keyAllowed, rest) := skipFrom s.inFlow s.keyAllowed false s.column s.rest
  (s.moveTo rest).allow keyAllowed

/-- How many columns may lie between the begin of a key and its colon. -/
def keyReach : Nat := 1024

/-- Whether a colon at this place comes too late for a candidate. -/
def isStale (s : State) (c : Candidate) : Bool :=
  c.line < s.line || c.column + keyReach < s.column

/-- Gives the stale candidates up; `none` if one of them must be a key. -/
def expire (s : State) : Option State :=
  if (s.candidate :: s.outer).any (·.any fun c => c.required && isStale s c) then
    none
  else
    let fresh (o : Option Candidate) : Option Candidate := o.filter (!isStale s ·)
    some { s with candidate := fresh s.candidate, outer := s.outer.map fresh }

/-! ### Marks -/

/-- Reads a mark of `n` characters. -/
def mark (s : State) (n : Nat) (t : Token) : State :=
  (s.moveTo (s.rest.drop n)).push t

/-- Reads something in front of which every block ends. -/
def atMargin (s : State) : Option State :=
  ((s.close fun _ => false).dropCandidate).map (·.allow false)

/-- Reads the mark of a document. -/
def documentMark (s : State) (t : Token) : Option State :=
  (atMargin s).map fun s => mark s 3 t

/-- Reads a directive. -/
def directive (s : State) : Option State := do
  let s ← atMargin s
  let (t, rest) ← directive? (s.rest.drop 1)
  return (s.moveTo rest).push t

/-- Reads the mark that opens a flow collection. -/
def openFlow (s : State) (t : Token) : Option State :=
  s.saveCandidate.map fun s =>
    (mark { s with candidate := none, outer := s.candidate :: s.outer } 1 t).allow true

/-- Reads the mark that closes a flow collection. -/
def closeFlow (s : State) (t : Token) : Option State :=
  s.dropCandidate.map fun s =>
    (mark { s with candidate := s.outer.head?.join, outer := s.outer.drop 1 } 1 t).allow false

/-- Reads the comma of a flow collection. -/
def comma (s : State) : Option State :=
  s.dropCandidate.map fun s => (mark s 1 .comma).allow true

/-- Begins a block at this place; `none` where none may begin. -/
def beginHere (s : State) (t : Token) : Option State :=
  if s.inFlow then some s
  else if s.keyAllowed then some (s.begin s.column s.tokens.length t)
  else none

/-- Reads the hyphen of a block sequence. -/
def hyphen (s : State) : Option State := do
  let s ← (← beginHere s .blockSequence).dropCandidate
  return (mark s 1 .hyphen).allow true

/-- Reads the mark of a key. -/
def key (s : State) : Option State := do
  let s ← (← beginHere s .blockMapping).dropCandidate
  return (mark s 1 .key).allow !s.inFlow

/-- Reads the mark of a value. The candidate, if there is one, is its key. -/
def value (s : State) : Option State :=
  match s.candidate with
  | some c =>
    let s := ((s.insert c.index .key).begin c.column c.index .blockMapping).allow false
    some (mark { s with candidate := none } 1 .value)
  | none => (beginHere s .blockMapping).map fun s => (mark s 1 .value).allow !s.inFlow

/-! ### Nodes -/

/-- Reads a token that may begin a key, from behind its mark. -/
def node (s : State) (read : List Char → Option (Token × List Char)) : Option State := do
  let s ← s.saveCandidate
  let (t, rest) ← read (s.rest.drop 1)
  return ((s.moveTo rest).push t).allow false

/-- Reads a tag. -/
def tag (s : State) : Option State :=
  (node s tag?).filter fun t => endsTag s.inFlow t.rest

/-- Reads a quoted scalar. -/
def quoted (s : State) (style : Style) : Option State :=
  node s fun cs =>
    (match style with
    | .singleQuoted => SingleQuoted.read cs
    | _ => DoubleQuoted.read cs).map fun (text, rest) => (.scalar style text, rest)

/-- Reads a block scalar. -/
def block (s : State) (style : Style) : Option State := do
  let s ← s.dropCandidate
  let (text, rest) ← Block.read (style = .folded) s.indent? (s.rest.drop 1)
  return ((s.moveTo rest).push (.scalar style text)).allow true

/-- Reads a plain scalar. -/
def plain (s : State) : Option State := do
  let s ← s.saveCandidate
  let r ← Plain.read s.inFlow s.minimum s.rest
  return ((s.moveTo r.rest).push (.scalar .plain r.text)).allow r.broken

/-! ### The lexer -/

/-- Whether a mark is followed by what it needs: the end of a word, unless a flow collection is
open. -/
def standsAlone (s : State) : Bool :=
  s.inFlow || endsWord (s.rest.drop 1)

/-- Reads a token that begins with a character, and is not the mark of a document. -/
def fetchChar (s : State) (c : Char) : Option State :=
  match c with
  | '[' => openFlow s .openBracket
  | '{' => openFlow s .openBrace
  | ']' => closeFlow s .closeBracket
  | '}' => closeFlow s .closeBrace
  | ',' => comma s
  | '*' => node s fun cs => (anchorName? cs).map fun (name, rest) => (.alias name, rest)
  | '&' => node s fun cs => (anchorName? cs).map fun (name, rest) => (.anchor name, rest)
  | '!' => tag s
  | '\'' => quoted s .singleQuoted
  | '"' => quoted s .doubleQuoted
  | c =>
    if c = '-' && endsWord (s.rest.drop 1) then hyphen s
    else if c = '?' && standsAlone s then key s
    else if c = ':' && standsAlone s then value s
    else if c = '|' && !s.inFlow then block s .literal
    else if c = '>' && !s.inFlow then block s .folded
    else if Plain.starts s.inFlow s.rest then plain s
    else none

/-- **Reads one token**, with those that it implies. -/
def fetch (s : State) : Option State :=
  if s.column = 0 && s.rest.head? = some '%' then directive s
  else if s.column = 0 && startsDocument s.rest then documentMark s .documentStart
  else if s.column = 0 && endsDocument s.rest then documentMark s .documentEnd
  else s.rest.head?.bind (fetchChar s)

/-- Reads at most `n` tokens. -/
def readWithin (n : Nat) (s : State) : Option (List Token) :=
  match n with
  | 0 => none
  | n + 1 =>
    match expire (skip s) with
    | none => none
    | some s =>
      let s := s.close (· ≤ s.column)
      if s.rest.isEmpty then (atMargin s).map (·.tokens.reverse)
      else (fetch s).bind (readWithin n)

end Lexer

/-- A text without a mark at its start, with its line ends normalized. -/
def prepared (cs : List Char) : List Char :=
  normalize (if cs.head? = some byteOrderMark then cs.drop 1 else cs)

/-- The **tokens of a text**; `none` if it is not well formed. A token takes a character at
least, so the length of the text bounds their number. -/
def tokens? (cs : List Char) : Option (List Token) :=
  if cs.all isReadable then
    Lexer.readWithin ((prepared cs).length + 1) { rest := prepared cs }
  else
    none

end Scaffold.Yaml
