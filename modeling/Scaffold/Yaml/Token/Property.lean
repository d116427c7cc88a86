import Scaffold.Text.Quoted
import Scaffold.Yaml.Character
import Scaffold.Yaml.Token

/-!
# Reading anchors, tags and directives

The tokens that say something about a node or a document: the name of an anchor, a tag in one
of its three spellings, and the directives in front of a document. Each reader starts behind
the mark of its token, and gives the token and what follows it.
-/

namespace Scaffold.Yaml

/-! ### Anchors and aliases -/

/-- Whether the name of an anchor may end in front of a text. -/
def endsAnchor (cs : List Char) : Bool :=
  endsWord cs || cs.head?.any ("?:,]\x7d%@`".toList.contains ·)

/-- The name of an anchor, and what follows it. -/
def anchorName? (cs : List Char) : Option (List Char × List Char) :=
  let name := cs.takeWhile isNameChar
  let rest := cs.dropWhile isNameChar
  if name.isEmpty || !endsAnchor rest then none else some (name, rest)

/-! ### Tags -/

/-- Whether a character other than a percent sign may stand in a tag. -/
def isTagChar (inBrackets : Bool) (c : Char) : Bool :=
  isNameChar c || ";/?:@&=+$.!~*'()".toList.contains c
    || (inBrackets && ",[]".toList.contains c)

/-- How many bytes follow the first one of an escaped character. -/
def trailing? (lead : Nat) : Option Nat :=
  if lead < 0x80 then some 0
  else if lead < 0xC0 then none
  else if lead < 0xE0 then some 1
  else if lead < 0xF0 then some 2
  else if lead < 0xF8 then some 3
  else none

/-- Where the reader of a tag stands: how many bytes of an escaped character are to come, and
how far their next escape was read. -/
inductive TagState where
  | text
  /-- Before a percent sign that has to follow. -/
  | percent (more : Nat)
  /-- Behind a percent sign. -/
  | high (more : Option Nat)
  /-- Behind its first digit. -/
  | low (more : Option Nat) (value : Nat)
  deriving Repr, DecidableEq

/-- The state behind an escaped byte, the first of a character if `more` is not given. -/
def TagState.after? (more : Option Nat) (byte : Nat) : Option TagState :=
  match more with
  | none => (trailing? byte).map fun n => if n = 0 then .text else .percent n
  | some n =>
    if 0x80 ≤ byte ∧ byte < 0xC0 then some (if n ≤ 1 then .text else .percent (n - 1)) else none

/-- Reads the characters of a tag, each escaped byte as the character of its value. -/
def tagText? (inBrackets : Bool) (s : TagState) (cs : List Char) :
    Option (List Char × List Char) :=
  match cs with
  | [] =>
    match s with
    | .text => some ([], [])
    | _ => none
  | c :: rest =>
    match s with
    | .text =>
      if c = '%' then tagText? inBrackets (.high none) rest
      else if isTagChar inBrackets c then
        (tagText? inBrackets .text rest).map fun (text, rest) => (c :: text, rest)
      else some ([], c :: rest)
    | .percent more => if c = '%' then tagText? inBrackets (.high (some more)) rest else none
    | .high more => (Text.hexValue? c).bind fun d => tagText? inBrackets (.low more d) rest
    | .low more high =>
      (Text.hexValue? c).bind fun d =>
        (TagState.after? more (16 * high + d)).bind fun s =>
          (tagText? inBrackets s rest).map fun (text, rest) =>
            (Char.ofNat (16 * high + d) :: text, rest)

/-- The handle of a tag from behind its first exclamation mark: it is complete if another one
closes it. -/
def tagHandle (cs : List Char) : List Char × Bool × List Char :=
  let name := cs.takeWhile isNameChar
  match cs.dropWhile isNameChar with
  | '!' :: rest => ('!' :: name ++ ['!'], true, rest)
  | rest => ('!' :: name, false, rest)

/-- A tag from behind its exclamation mark, and what follows it. A tag without a handle has the
primary one, and a lone exclamation mark is a tag of its own. -/
def tag? (cs : List Char) : Option (Token × List Char) :=
  match cs with
  | '<' :: rest =>
    match tagText? true .text rest with
    | some (text, '>' :: rest) => if text.isEmpty then none else some (.tag [] text, rest)
    | _ => none
  | cs =>
    let (handle, complete, rest) := tagHandle cs
    (tagText? false .text rest).bind fun (text, rest) =>
      if complete then
        if text.isEmpty then none else some (.tag handle text, rest)
      else
        match handle.drop 1 ++ text with
        | [] => some (.tag [] ['!'], rest)
        | suffix => some (.tag ['!'] suffix, rest)

/-- Whether a tag may end in front of a text. -/
def endsTag (inFlow : Bool) (cs : List Char) : Bool :=
  endsWord cs || (inFlow && cs.head? = some ',')

/-! ### Directives -/

/-- The most digits that a part of a version may have. -/
def versionDigits : Nat := 9

/-- A number of few digits, and what follows it. -/
def versionPart? (cs : List Char) : Option (Nat × List Char) :=
  let digits := cs.takeWhile Char.isDigit
  if digits.isEmpty || versionDigits < digits.length then none
  else some (digits.foldl (fun n c => 10 * n + (c.toNat - '0'.toNat)) 0, cs.dropWhile Char.isDigit)

/-- The version that a directive gives. -/
def versionDirective? (cs : List Char) : Option (Token × List Char) :=
  match versionPart? (cs.dropWhile isGap) with
  | some (major, '.' :: rest) =>
    (versionPart? rest).map fun (minor, rest) => (.version major minor, rest)
  | _ => none

/-- The handle that a directive declares, and what it stands for. -/
def tagDirective? (cs : List Char) : Option (Token × List Char) :=
  match cs.dropWhile isGap with
  | '!' :: rest =>
    let (handle, complete, rest) := tagHandle rest
    if (complete || handle = ['!']) && rest.head?.any isGap then
      (tagText? true .text (rest.dropWhile isGap)).bind fun (text, rest) =>
        if text.isEmpty || !endsWord rest then none else some (.tagDirective handle text, rest)
    else
      none
  | _ => none

/-- A directive from behind its percent sign, and what follows its line. -/
def directive? (cs : List Char) : Option (Token × List Char) := do
  let name := cs.takeWhile isNameChar
  let rest := cs.dropWhile isNameChar
  let (t, rest) ←
    if !endsWord rest then none
    else if name = "YAML".toList then versionDirective? rest
    else if name = "TAG".toList then tagDirective? rest
    else none
  return (t, ← afterLine? rest)

end Scaffold.Yaml
