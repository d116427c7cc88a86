import Scaffold.Yaml.Scalar.Gap

/-!
# Plain scalars

A plain scalar stands without quotes, and ends where its context goes on: before a colon at the
end of a word, before a comment, before a line that is not indented further than the
collection that holds the scalar, and in a flow collection before a bracket, brace or comma.

## Main definitions

* `Plain.starts` - whether a plain scalar can begin here.
* `Plain.read` - the text of a plain scalar and what follows it.
-/

namespace Scaffold.Yaml.Plain

/-- Whether a character is a mark that a plain scalar cannot begin with. -/
def isIndicator (c : Char) : Bool :=
  "-?:,[]\x7b\x7d#&*!|>'\"%@`".toList.contains c

/-- Whether a plain scalar can begin here, within or outside a flow collection. -/
def starts (inFlow : Bool) (cs : List Char) : Bool :=
  match cs with
  | [] => false
  | c :: rest =>
    !(endsWord cs || isIndicator c)
      || (c = '-' && !(rest.head?.any isGap))
      || (!inFlow && (c = '?' || c = ':') && !endsWord rest)

/-- Whether a colon breaks the rules of flow collections because of what follows it. -/
def isMisplaced (c : Char) (rest : List Char) : Bool :=
  c = ':' && rest.head?.any (",?[]\x7b\x7d".toList.contains ·)

/-- Whether a character that is no blank ends a plain scalar. -/
def isEnd (inFlow : Bool) (c : Char) (rest : List Char) : Bool :=
  (c = ':' && endsWord rest) || (inFlow && ",[]\x7b\x7d".toList.contains c)

/-- Whether the scalar ends behind a gap. -/
def endsBehind (inFlow : Bool) (indent : Nat) (g : Gap) (cs : List Char) : Bool :=
  cs.head? = some '#' || (g.atLineStart && isDocumentMark cs) || (!inFlow && g.leftOf indent)

/-- A scalar that was read. -/
structure Reading where
  /-- Its text. -/
  text : List Char
  /-- Whether lines ended behind it. -/
  broken : Bool
  /-- What follows it. -/
  rest : List Char
  deriving Repr, DecidableEq

/-- A reading with text in front of it. -/
def Reading.behind (r : Reading) (cs : List Char) : Reading :=
  { r with text := cs ++ r.text }

/-- Reads on from a gap. -/
def readFrom (inFlow : Bool) (indent : Nat) (g : Gap) (cs : List Char) : Option Reading :=
  match cs with
  | [] => some ⟨[], g.isBroken, []⟩
  | c :: rest =>
    if isBreak c then
      readFrom inFlow indent (g.addBreak c) rest
    else if isGap c then
      if c = '\t' && g.leftOf indent then none
      else readFrom inFlow indent (g.addBlank c) rest
    else if !g.isNone && endsBehind inFlow indent g cs then
      some ⟨[], g.isBroken, cs⟩
    else if inFlow && isMisplaced c rest then
      none
    else if isEnd inFlow c rest then
      some ⟨[], g.isBroken, cs⟩
    else
      (readFrom inFlow indent .none rest).map (·.behind (g.text ++ [c]))

/-- Reads a **plain scalar**. Outside a flow collection its further lines must reach the column
`indent`. A tab may not stand in front of that column. -/
def read (inFlow : Bool) (indent : Nat) (cs : List Char) : Option Reading :=
  readFrom inFlow indent .none cs

end Scaffold.Yaml.Plain
