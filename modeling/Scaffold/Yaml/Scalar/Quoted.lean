import Scaffold.Text.Quoted
import Scaffold.Yaml.Scalar.Gap

/-!
# Quoted scalars

Between single quotes every character stands for itself, and a single quote is written twice.
Between double quotes a backslash opens an escape. In both, gaps are folded, and a line must
not begin with the mark of a document.

## Main definitions

* `SingleQuoted.read`, `DoubleQuoted.read` - the text of a quoted scalar, from behind its
  opening quote, and what follows its closing quote.
-/

namespace Scaffold.Yaml

/-- Puts text in front of a scalar that was read. -/
def behind (text : List Char) (r : List Char × List Char) : List Char × List Char :=
  (text ++ r.1, r.2)

namespace SingleQuoted

/-- Reads on from a gap. -/
def readFrom (g : Gap) (cs : List Char) : Option (List Char × List Char) :=
  match cs with
  | [] => none
  | '\'' :: '\'' :: rest => (readFrom .none rest).map (behind (g.text ++ ['\'']))
  | '\'' :: rest => some (g.text, rest)
  | c :: rest =>
    if isBreak c then readFrom (g.addBreak c) rest
    else if isGap c then readFrom (g.addBlank c) rest
    else if g.atLineStart && isDocumentMark (c :: rest) then none
    else (readFrom .none rest).map (behind (g.text ++ [c]))

/-- Reads a **single-quoted scalar** from behind its opening quote. -/
def read (cs : List Char) : Option (List Char × List Char) :=
  readFrom .none cs

end SingleQuoted

namespace DoubleQuoted

/-- The character that an escape of one letter stands for. -/
def named? (c : Char) : Option Char :=
  match c with
  | '0' => some '\x00'
  | 'a' => some '\x07'
  | 'b' => some '\x08'
  | 't' => some '\t'
  | '\t' => some '\t'
  | 'n' => some '\n'
  | 'v' => some '\x0b'
  | 'f' => some '\x0c'
  | 'r' => some '\r'
  | 'e' => some '\x1b'
  | ' ' => some ' '
  | '"' => some '"'
  | '\'' => some '\''
  | '/' => some '/'
  | '\\' => some '\\'
  | 'N' => some '\u0085'
  | '_' => some '\u00A0'
  | 'L' => some '\u2028'
  | 'P' => some '\u2029'
  | _ => none

/-- How many hexadecimal digits follow the letter of an escape. -/
def digits? (c : Char) : Option Nat :=
  match c with
  | 'x' => some 2
  | 'u' => some 4
  | 'U' => some 8
  | _ => none

/-- Where the reader stands. -/
inductive State where
  /-- Behind a gap. -/
  | text (g : Gap)
  /-- Behind a backslash. -/
  | escape
  /-- Before further digits of an escape: their number less one, and the value so far. -/
  | code (more value : Nat)
  deriving Repr, DecidableEq

/-- Reads on from a state. -/
def readFrom (s : State) (cs : List Char) : Option (List Char × List Char) :=
  match cs with
  | [] => none
  | c :: rest =>
    match s with
    | .text g =>
      if isBreak c then readFrom (.text (g.addBreak c)) rest
      else if isGap c then readFrom (.text (g.addBlank c)) rest
      else if g.atLineStart && isDocumentMark (c :: rest) then none
      else if c = '"' then some (g.text, rest)
      else if c = '\\' then (readFrom .escape rest).map (behind g.text)
      else (readFrom (.text .none) rest).map (behind (g.text ++ [c]))
    | .escape =>
      if isBreak c then readFrom (.text .escapedBreak) rest
      else
        match named? c, digits? c with
        | some d, _ => (readFrom (.text .none) rest).map (behind [d])
        | none, some n => readFrom (.code (n - 1) 0) rest
        | none, none => none
    | .code more value =>
      match Text.hexValue? c, more with
      | none, _ => none
      | some d, more + 1 => readFrom (.code more (16 * value + d)) rest
      | some d, 0 =>
        if (16 * value + d).isValidChar then
          (readFrom (.text .none) rest).map (behind [Char.ofNat (16 * value + d)])
        else none

/-- Reads a **double-quoted scalar** from behind its opening quote. -/
def read (cs : List Char) : Option (List Char × List Char) :=
  readFrom (.text .none) cs

end DoubleQuoted

end Scaffold.Yaml
