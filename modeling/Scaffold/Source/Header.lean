import Scaffold.Text.Blank
import Scaffold.Text.Split

/-!
# Header comments

Ordinary comments are no part of a syntax tree. The comment lines at the top of a source, such
as the mark of a generated file, are therefore split off before the source is read, and put in
front of it again. A line belongs to the header if, trimmed, it is an ordinary comment; blank
lines between such lines vanish.

## Main definitions

* `splitHeader` - the lines of the header, and the rest of the source.
-/

namespace Scaffold.Source

/-- Whether a trimmed line is an ordinary comment: it begins with two slashes, and not with a
third one or an exclamation mark behind them. -/
def isHeaderLine (line : List Char) : Bool :=
  match line with
  | '/' :: '/' :: '/' :: _ => false
  | '/' :: '/' :: '!' :: _ => false
  | '/' :: '/' :: _ => true
  | _ => false

/-- The trimmed lines of the header, and the lines from the first that does not belong to it. -/
def splitHeaderLines (lines : List (List Char)) : List (List Char) × List (List Char) :=
  match lines with
  | [] => ([], [])
  | line :: rest =>
    let trimmed := Text.trim line
    if isHeaderLine trimmed then
      let (header, rest) := splitHeaderLines rest
      (trimmed :: header, rest)
    else if trimmed.isEmpty then
      splitHeaderLines rest
    else
      ([], line :: rest)

/-- The **header of a source**, line by line, and the rest of the source. -/
def splitHeader (source : List Char) : List (List Char) × List Char :=
  let (header, rest) := splitHeaderLines (Text.split '\n' source)
  (header, List.intercalate ['\n'] rest)

/-- A source with the lines of a header and a blank line in front of it. -/
def joinHeader (header : List (List Char)) (body : List Char) : List Char :=
  if header.isEmpty then body else List.intercalate ['\n'] header ++ '\n' :: '\n' :: body

end Scaffold.Source
