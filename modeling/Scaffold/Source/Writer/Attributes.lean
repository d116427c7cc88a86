import Scaffold.Source.Writer.Types

/-!
# Laying out attributes, visibility and imports

An attribute that holds documentation is written as a doc comment, and one that holds a comment
as a comment, if the text allows it.
-/

namespace Scaffold.Source

open Layout (Doc)

/-! ### Comments -/

/-- A text without blanks at its end. -/
def withoutTrailingBlanks (cs : List Char) : List Char :=
  (cs.reverse.dropWhile (· = ' ')).reverse

/-- A text whose lines, but for the last, have no blanks at their ends. -/
def withoutInnerBlanks (cs : List Char) : List Char :=
  match cs with
  | [] => []
  | c :: rest =>
    if c = ' ' ∧ (cs.dropWhile (· = ' ')).head? = some '\n' then
      withoutInnerBlanks rest
    else
      c :: withoutInnerBlanks rest

/-- Whether the openings and closings of block comments in a text match, within a number of
comments that are open. -/
def hasMatchingComments (depth : Nat) (cs : List Char) : Bool :=
  match cs with
  | c :: d :: rest =>
    if c = '/' ∧ d = '*' then
      hasMatchingComments (depth + 1) rest
    else if c = '*' ∧ d = '/' then
      match depth with
      | 0 => false
      | depth + 1 => hasMatchingComments depth rest
    else
      hasMatchingComments depth (d :: rest)
  | _ => depth = 0

/-- A text as a comment, given the marks of both kinds of comment and the characters with which
neither may begin. -/
def commentDocs? (line block : String) (lineBars blockBars : List Char) (text : List Char) :
    Option (List Doc) :=
  if '\n' ∉ text ∧ !text.head?.any lineBars.contains then
    some [.ofString line, .text (withoutTrailingBlanks text), .lineEnd]
  else if hasMatchingComments 0 text ∧ !text.head?.any blockBars.contains then
    some [.ofString block, .text (withoutInnerBlanks text), .ofString "*/", .lineEnd]
  else
    none

/-- The text that an attribute of a given name holds. -/
def Attribute.text? (a : Attribute) (name : String) : Option (List Char) :=
  match a.body with
  | .value ⟨.text value, _⟩ => if a.path = ⟨false, [.ofString name]⟩ then some value else none
  | _ => none

/-- An attribute as a comment. -/
def Attribute.commentDocs? (a : Attribute) : Option (List Doc) :=
  match a.text? "doc", a.text? "comment" with
  | some text, _ =>
    if a.inner then Source.commentDocs? "//!" "/*!" [] [] text
    else Source.commentDocs? "///" "/**" ['/'] ['*', '/'] text
  | none, some text => Source.commentDocs? "//" "/*" [] ['*', '!'] text
  | none, none => none

/-! ### Attributes -/

/-- A path without arguments, laid out. -/
def PlainPath.docs (p : PlainPath) : List Doc :=
  (if p.rooted then [.ofString "::"] else []) ++ separatedBy "::" (p.names.map fun n => [n.doc])

/-- What stands before the next token of an attribute. -/
inductive Before where
  /-- A name or literal, from which another one has to be kept apart. -/
  | word
  /-- A mark or a bracket. -/
  | mark
  /-- A comma behind which the group ends. -/
  | lastComma
  deriving Repr, DecidableEq

/-- The gap between two words. -/
def Before.gap (b : Before) : List Doc :=
  if b = .word then [.space] else []

/-- A mark of an attribute, laid out. -/
def markDocs (before : Before) (c : Char) : List Doc :=
  (if before = .word ∧ c = '=' then [.ofString " "] else []) ++ .text [c] ::
    (if c = '=' then [.ofString " "] else if c = ',' then [.space] else [])

/-- Whether a group ends here. -/
def endsGroup (ts : List Token) : Bool :=
  match ts with
  | [] => true
  | .closing _ :: _ => true
  | _ => false

/-- A group of tokens, laid out, given what it holds and what stands at its end. -/
def groupDocs (d : Delimiter) (docs : List Doc) (last : Before) : List Doc :=
  let inside :=
    match d with
    | .paren =>
      [.box { indent := indentStep } (Layout.outdented indentStep
        (.softEnd :: docs ++ if last = .lastComma then [] else [.softEnd]))]
    | _ => docs
  .text [d.opener] :: inside ++ [.text [d.closer]]

/-- Tokens of an attribute, laid out up to the end of their group: what stands at its end, and
the tokens from its closing bracket on. At most `n` tokens are read. -/
def tokenDocs (n : Nat) (before : Before) (ts : List Token) :
    List Doc × Before × List Token :=
  match n, ts with
  | 0, ts => ([], before, ts)
  | _, [] => ([], before, [])
  | n + 1, t :: rest =>
    let next (docs : List Doc) (before : Before) (rest : List Token) :
        List Doc × Before × List Token :=
      let (more, last, rest) := tokenDocs n before rest
      (docs ++ more, last, rest)
    match t with
    | .name name => next (before.gap ++ [name.doc]) .word rest
    | .lifetime name => next [name.lifetimeDoc] .word rest
    | .literal l => next (before.gap ++ [l.doc]) .word rest
    | .mark c _ =>
      if c = ',' ∧ endsGroup rest then next [.gap { comma := true }] .lastComma rest
      else next (markDocs before c) .mark rest
    | .opening d =>
      let (inside, last, rest) := tokenDocs n .mark rest
      next (groupDocs d inside last) .mark (rest.drop 1)
    | .closing _ => ([], before, t :: rest)

/-- What an attribute says, laid out. -/
def AttributeBody.docs (b : AttributeBody) : List Doc :=
  match b with
  | .nothing => []
  | .tokens d ts =>
    let (inside, last, _) := tokenDocs (ts.length + 1) .mark ts
    groupDocs d inside last
  | .value l => [.ofString " = ", l.doc]

/-- An attribute, laid out. -/
def Attribute.docs (a : Attribute) : List Doc :=
  match a.commentDocs? with
  | some docs => docs
  | none =>
    .ofString (if a.inner then "#![" else "#[") :: a.path.docs ++ a.body.docs ++
      [.ofString "]", .space]

/-- The attributes in front of what they describe, laid out. -/
def outerDocs (as : List Attribute) : List Doc :=
  (as.filter (!·.inner)).flatMap Attribute.docs

/-- The attributes within what they describe, laid out. -/
def innerDocs (as : List Attribute) : List Doc :=
  (as.filter (·.inner)).flatMap Attribute.docs

/-! ### Visibility -/

/-- The modules that limit a visibility without a further word. -/
def plainScopes : List PlainPath :=
  ["self", "super", "crate"].map fun w => ⟨false, [.ofString w]⟩

/-- A visibility, laid out. -/
def Visibility.docs (v : Visibility) : List Doc :=
  match v with
  | .inherited => []
  | .everyone => [.ofString "pub "]
  | .within p =>
    .ofString (if plainScopes.contains p then "pub(" else "pub(in ") :: p.docs ++ [.ofString ") "]

/-! ### Imports -/

/-- Whether a tree ends in a group. -/
def UseTree.endsInGroup (t : UseTree) : Bool :=
  match t with
  | .path _ rest => rest.endsInGroup
  | .group _ => true
  | _ => false

/-- Whether a tree names the module that encloses it. -/
def UseTree.isSelf (t : UseTree) : Bool :=
  match t with
  | .name n => n.isWord "self"
  | .rename n _ => n.isWord "self"
  | _ => false

mutual

/-- A tree of imported names, laid out. A group of one needs no braces. -/
def UseTree.docs (t : UseTree) : List Doc :=
  match t with
  | .path n rest => n.doc :: .ofString "::" :: rest.docs
  | .name n => [n.doc]
  | .rename n target => [n.doc, .ofString " as ", target.doc]
  | .all => [.ofString "*"]
  | .group [] => [.ofString "\x7b\x7d"]
  | .group (t :: rest) =>
    if rest.isEmpty ∧ !t.isSelf then
      t.docs
    else
      [.ofString "\x7b", .box { indent := indentStep }
        [.softEnd, .box { filled := true } (t.docs ++ useDocs t rest),
          .gap { offset := -indentStep, comma := true }], .ofString "\x7d"]

/-- The trees of a group behind the first one, laid out. Behind a group the line ends. -/
def useDocs (before : UseTree) (ts : List UseTree) : List Doc :=
  match ts with
  | [] => []
  | t :: rest =>
    .ofString "," :: (if before.endsInGroup then .lineEnd else .space) :: t.docs ++
      useDocs t rest

end

end Scaffold.Source
