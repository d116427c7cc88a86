import Scaffold.Yaml.Character
import Scaffold.Yaml.Scalar.Meaning
import Scaffold.Yaml.Token

/-!
# Writing YAML texts

A text is written as a scalar in the first style that can hold it: indented lines if it has
line feeds, and else plain if that reads back as a text, single-quoted or double-quoted. Only
double quotes can hold every text.

## Main definitions

* `styleOf` - the style of a text.
* `writeText` - a text as a scalar.
* `writeMapping` - a mapping of names to texts and nulls.
-/

namespace Scaffold.Yaml

/-! ### Choosing a style -/

/-- Whether a character may stand outside double quotes. -/
def isPlainChar (c : Char) : Bool :=
  let n := c.toNat
  n = 0xA || (0x20 ≤ n && n ≤ 0x7E) || (0xA0 ≤ n && n ≤ 0xFFFD && c ≠ byteOrderMark)

/-- Whether two neighbours in a text satisfy a test. -/
def anyPair (test : Char → Char → Bool) (cs : List Char) : Bool :=
  match cs with
  | c :: d :: rest => test c d || anyPair test (d :: rest)
  | _ => false

/-- Whether a space stands in front of a line end. -/
def hasSpaceBreak (cs : List Char) : Bool :=
  anyPair (fun c d => c = ' ' && isBreak d) cs

/-- Whether a line begins with a space. -/
def hasBreakSpace (cs : List Char) : Bool :=
  anyPair (fun c d => isBreak c && d = ' ') cs

/-- Whether a text begins with a mark that means something else. -/
def startsWithMark (cs : List Char) : Bool :=
  match cs with
  | [] => false
  | c :: rest =>
    "#,[]\x7b\x7d&*!|>'\"%@`".toList.contains c
      || ("?:-".toList.contains c && endsWord rest)
      || "---".toList.isPrefixOf cs || "...".toList.isPrefixOf cs

/-- Whether a later part of a text, behind a given character, holds the mark of a value or a
comment. -/
def hasMarkBehind (before : Char) (cs : List Char) : Bool :=
  match cs with
  | [] => false
  | c :: rest =>
    (c = ':' && endsWord rest) || (c = '#' && (isGap before || isBreak before))
      || hasMarkBehind c rest

/-- Whether a text can be written in plain style. -/
def allowsPlain (cs : List Char) : Bool :=
  cs.all (fun c => isPlainChar c && !isBreak c)
    && cs.head? ≠ some ' ' && cs.getLast? ≠ some ' '
    && !startsWithMark cs
    && !(cs.head?.any (hasMarkBehind · (cs.drop 1)))

/-- Whether a text can be written between single quotes. -/
def allowsSingle (cs : List Char) : Bool :=
  cs.all isPlainChar && !hasSpaceBreak cs && !hasBreakSpace cs

/-- Whether a text can be written as indented lines. -/
def allowsLines (cs : List Char) : Bool :=
  cs.all isPlainChar && !hasSpaceBreak cs && cs.getLast? ≠ some ' '

/-- The **style of a text**. -/
def styleOf (cs : List Char) : Style :=
  if cs.contains '\n' then
    if allowsLines cs then .literal else .doubleQuoted
  else if !isAmbiguous cs && allowsPlain cs then .plain
  else if allowsSingle cs then .singleQuoted
  else .doubleQuoted

/-! ### Scalars -/

/-- The indentation of the lines of a scalar. -/
def margin : List Char := [' ', ' ']

/-- The inside of single quotes: a single quote is written twice, and lines are indented. -/
def writeSingle (behindBreak : Bool) (cs : List Char) : List Char :=
  match cs with
  | [] => if behindBreak then margin else []
  | c :: rest =>
    if isBreak c then c :: writeSingle true rest
    else
      (if behindBreak then margin else []) ++ (if c = '\'' then ['\'', '\''] else [c])
        ++ writeSingle false rest

/-- The letter of the escape for a character, if it has one. -/
def escapeLetter? (c : Char) : Option Char :=
  match c with
  | '\x00' => some '0'
  | '\x07' => some 'a'
  | '\x08' => some 'b'
  | '\t' => some 't'
  | '\n' => some 'n'
  | '\x0b' => some 'v'
  | '\x0c' => some 'f'
  | '\r' => some 'r'
  | '\x1b' => some 'e'
  | '"' => some '"'
  | '\\' => some '\\'
  | '\u0085' => some 'N'
  | '\u2028' => some 'L'
  | '\u2029' => some 'P'
  | _ => none

/-- A hexadecimal digit in upper case. -/
def hexDigit (n : Nat) : Char :=
  (Nat.digitChar n).toUpper

/-- The last `places` hexadecimal digits of a number. -/
def hexDigits (places n : Nat) : List Char :=
  match places with
  | 0 => []
  | places + 1 => hexDigits places (n / 16) ++ [hexDigit (n % 16)]

/-- The escape of a character by its number. -/
def numericEscape (n : Nat) : List Char :=
  if n ≤ 0xFF then '\\' :: 'x' :: hexDigits 2 n
  else if n ≤ 0xFFFF then '\\' :: 'u' :: hexDigits 4 n
  else '\\' :: 'U' :: hexDigits 8 n

/-- A character between double quotes. -/
def writeDoubleChar (c : Char) : List Char :=
  match escapeLetter? c with
  | some letter => ['\\', letter]
  | none => if isPlainChar c then [c] else numericEscape c.toNat

/-- The header of indented lines. It tells their indentation if the first line does not show it,
and what becomes of the last line ends. -/
def linesHeader (cs : List Char) : List Char :=
  let indent := if cs.head?.any (fun c => c = ' ' || isBreak c) then ['2'] else []
  let chomp :=
    match cs.reverse with
    | c :: rest =>
      if !isBreak c then ['-']
      else if rest.head?.all isBreak then ['+']
      else []
    | [] => ['-']
  '|' :: indent ++ chomp ++ ['\n']

/-- Lines, each but the empty ones indented. -/
def writeLines (atStart : Bool) (cs : List Char) : List Char :=
  match cs with
  | [] => []
  | c :: rest =>
    if isBreak c then c :: writeLines true rest
    else (if atStart then margin else []) ++ c :: writeLines false rest

/-- A line end, unless a text ends with one. -/
def endLine (cs : List Char) : List Char :=
  if cs.getLast?.any isBreak then [] else ['\n']

/-- A **text as a scalar** in a given style, with the end of its last line. -/
def writeStyled (style : Style) (cs : List Char) : List Char :=
  match style with
  | .plain => cs ++ ['\n']
  | .singleQuoted => '\'' :: writeSingle false cs ++ ['\'', '\n']
  | .doubleQuoted => '"' :: cs.flatMap writeDoubleChar ++ ['"', '\n']
  | .literal => linesHeader cs ++ writeLines true cs ++ endLine cs
  | .folded => linesHeader cs ++ writeLines true cs ++ endLine cs

/-- A **text as a scalar**. -/
def writeText (cs : List Char) : List Char :=
  writeStyled (styleOf cs) cs

/-! ### Mappings -/

/-- A text, or null if there is none. -/
def writeOptional (value : Option (List Char)) : List Char :=
  match value with
  | some cs => writeText cs
  | none => "null\n".toList

/-- A **mapping** of plain names to texts and nulls. -/
def writeMapping (entries : List (List Char × Option (List Char))) : List Char :=
  entries.flatMap fun (name, value) => name ++ ':' :: ' ' :: writeOptional value

end Scaffold.Yaml
