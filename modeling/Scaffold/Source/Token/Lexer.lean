import Scaffold.Source.Token
import Scaffold.Text.Blank

/-!
# Cutting source into tokens

White space and ordinary comments separate tokens and vanish. A doc comment is an attribute in
another spelling, and is cut into the tokens of that attribute.

## Main definitions

* `next?` - the tokens of the first lexeme of a text and what follows it.
* `tokens?` - all tokens of a text; `none` if it cannot be cut.
-/

namespace Scaffold.Source

open Text (startsIdentifier continuesIdentifier isBlank)

/-- Whether a character separates tokens: white space, or a mark of writing direction. -/
def isSeparator (c : Char) : Bool :=
  isBlank c || c = '\u200E' || c = '\u200F'

/-! ### Comments -/

/-- Whether a line comment is a doc comment, by what follows its two slashes. -/
def isDocLine (cs : List Char) : Bool :=
  match cs with
  | '!' :: _ => true
  | '/' :: '/' :: _ => false
  | '/' :: _ => true
  | _ => false

/-- Whether a block comment is a doc comment, by what follows its opening. -/
def isDocBlock (cs : List Char) : Bool :=
  match cs with
  | '!' :: _ => true
  | '*' :: '*' :: _ => false
  | '*' :: '/' :: _ => false
  | '*' :: _ => true
  | _ => false

/-- The content of a line comment: everything before the end of the line. -/
def lineContent (cs : List Char) : List Char :=
  match cs with
  | [] => []
  | c :: rest =>
    if c = '\n' ∨ (c = '\r' ∧ rest.head? = some '\n') then [] else c :: lineContent rest

/-- The content of a block comment and what follows it, from within a given number of inner
comments. -/
def blockContent? (depth : Nat) (cs : List Char) : Option (List Char × List Char) :=
  match cs with
  | c :: d :: rest =>
    if c = '/' ∧ d = '*' then
      (blockContent? (depth + 1) rest).map fun (text, more) => (c :: d :: text, more)
    else if c = '*' ∧ d = '/' then
      match depth with
      | 0 => some ([], rest)
      | depth + 1 => (blockContent? depth rest).map fun (text, more) => (c :: d :: text, more)
    else
      (blockContent? depth (d :: rest)).map fun (text, more) => (c :: text, more)
  | _ => none

/-- What follows the separator or ordinary comment with which a text begins. -/
def dropSeparator? (cs : List Char) : Option (List Char) :=
  match cs with
  | '/' :: '/' :: rest =>
    if isDocLine rest then none else some (rest.dropWhile (· ≠ '\n'))
  | '/' :: '*' :: rest =>
    if isDocBlock rest then none else (blockContent? 0 rest).map (·.2)
  | c :: rest => if isSeparator c then some rest else none
  | [] => none

/-- Drops at most `n` separators and ordinary comments. -/
def skipWithin (n : Nat) (cs : List Char) : List Char :=
  match n with
  | 0 => cs
  | n + 1 =>
    match dropSeparator? cs with
    | some rest => skipWithin n rest
    | none => cs

/-- A text from the first character that belongs to a token. -/
def skip (cs : List Char) : List Char :=
  skipWithin cs.length cs

/-- Whether every carriage return has a line feed behind it. -/
def hasWholeLineEnds (cs : List Char) : Bool :=
  match cs with
  | [] => true
  | c :: rest => !(c = '\r' && rest.head? ≠ some '\n') && hasWholeLineEnds rest

/-- How a character of a doc comment is spelled in the attribute. -/
def docEscape (c : Char) (rest : List Char) : List Char :=
  if c = '\x00' ∧ rest.head?.any (fun d => '0' ≤ d && d ≤ '7') then
    ['\\', 'x', '0', '0']
  else
    Text.escape c

/-- The text of a doc comment as it is spelled in the attribute. -/
def docSpelling (cs : List Char) : List Char :=
  match cs with
  | [] => []
  | c :: rest => docEscape c rest ++ docSpelling rest

/-- The tokens of the attribute that a doc comment stands for. -/
def docTokens (inner : Bool) (text : List Char) : List Token :=
  .mark '#' false :: ((if inner then [.mark '!' false] else []) ++
    [.opening .bracket, .name (.ofString "doc"), .mark '=' false,
      .literal ⟨.text text, '"' :: docSpelling text ++ ['"']⟩, .closing .bracket])

/-- The tokens of the doc comment with which a text begins, and what follows it. -/
def docComment? (cs : List Char) : Option (List Token × List Char) :=
  let whole (inner : Bool) (text rest : List Char) : Option (List Token × List Char) :=
    if hasWholeLineEnds text then some (docTokens inner text, rest) else none
  match cs with
  | '/' :: '/' :: kind :: rest =>
    if isDocLine (kind :: rest) then
      let text := lineContent rest
      whole (kind = '!') text (rest.drop text.length)
    else
      none
  | '/' :: '*' :: kind :: rest =>
    if isDocBlock (kind :: rest) then
      (blockContent? 0 rest).bind fun (text, rest) => whole (kind = '!') text rest
    else
      none
  | _ => none

/-! ### Tokens -/

/-- Whether a comment begins here. -/
def startsComment (cs : List Char) : Bool :=
  match cs with
  | '/' :: '/' :: _ => true
  | '/' :: '*' :: _ => true
  | _ => false

/-- The characters that are marks. -/
def marks : List Char :=
  "~!@#$%^&*-=+|;:,<.>/?'".toList

/-- Whether a text begins with a mark. -/
def startsMark (cs : List Char) : Bool :=
  !startsComment cs && cs.head?.any marks.contains

/-- The identifier or keyword with which a text begins, and what follows it. -/
def word? (cs : List Char) : Option (List Char × List Char) :=
  match cs with
  | [] => none
  | c :: rest =>
    if startsIdentifier c then
      some (c :: rest.takeWhile continuesIdentifier, rest.dropWhile continuesIdentifier)
    else
      none

/-- The name with which a text begins, and what follows it. -/
def name? (cs : List Char) : Option (Name × List Char) :=
  match cs with
  | 'r' :: '#' :: rest =>
    (word? rest).bind fun (text, rest) =>
      if Name.unmarkable.contains (String.ofList text) then none else some (⟨true, text⟩, rest)
  | cs => (word? cs).map fun (text, rest) => (⟨false, text⟩, rest)

/-- The beginnings that are kept for quoted literals, and therefore begin no name. -/
def quotePrefixes : List String :=
  ["r\"", "r#\"", "r##", "b\"", "b'", "br\"", "br#", "c\"", "cr\"", "cr#"]

/-- The lifetime from behind its apostrophe, and what follows it. No further apostrophe may
follow, nor a hash that is no part of the name. -/
def lifetime? (cs : List Char) : Option (Token × List Char) :=
  (name? cs).bind fun (n, rest) =>
    if rest.head? = some '\'' ∨ (rest.head? = some '#' ∧ !n.raw) then none
    else some (.lifetime n, rest)

/-- The bracket that a character is. -/
def bracket? (c : Char) : Option Token :=
  match c with
  | '(' => some (.opening .paren)
  | ')' => some (.closing .paren)
  | '[' => some (.opening .bracket)
  | ']' => some (.closing .bracket)
  | '{' => some (.opening .brace)
  | '}' => some (.closing .brace)
  | _ => none

/-- The token with which a text begins, if it is neither a bracket nor a literal. -/
def bare? (cs : List Char) : Option (Token × List Char) :=
  match cs with
  | [] => none
  | c :: rest =>
    if c = '\'' then lifetime? rest
    else if startsMark cs then some (.mark c (startsMark rest), rest)
    else if quotePrefixes.any (·.toList.isPrefixOf cs) then none
    else (name? cs).map fun (n, rest) => (.name n, rest)

/-- The token with which a text begins, and what follows it. -/
def token? (cs : List Char) : Option (Token × List Char) :=
  match cs.head?.bind bracket? with
  | some t => some (t, cs.drop 1)
  | none =>
    match Literal.read? cs with
    | some (l, rest) => some (.literal l, rest)
    | none => bare? cs

/-- The tokens of the **first lexeme** of a text, and what follows it. -/
def next? (cs : List Char) : Option (List Token × List Char) :=
  match docComment? cs with
  | some doc => some doc
  | none => (token? cs).map fun (t, rest) => ([t], rest)

/-- Cuts the tokens of at most `n` lexemes. -/
def tokensWithin (n : Nat) (cs : List Char) : Option (List Token) :=
  match n with
  | 0 => if cs.isEmpty then some [] else none
  | n + 1 =>
    match skipWithin (n + 1) cs with
    | [] => some []
    | cs =>
      (next? cs).bind fun (ts, rest) => (tokensWithin n rest).map fun more => ts ++ more

/-- The **tokens of a text**; `none` if it cannot be cut into tokens. A lexeme takes a character
at least, so the length of the text bounds their number. -/
def tokens? (cs : List Char) : Option (List Token) :=
  tokensWithin cs.length cs

end Scaffold.Source
