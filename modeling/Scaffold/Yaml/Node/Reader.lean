import Scaffold.Yaml.Node

/-!
# Reading YAML documents

Nodes are read from tokens by recursive descent. A missing key, value or item is an empty
plain scalar. An alias of a scalar is that scalar; every alias must name an anchor in front of
it. The depth of the descent is bounded by the number of tokens.

## Main definitions

* `Document.ofTokens?` - the node of a text with at most one document.
-/

namespace Scaffold.Yaml

/-- What the reader keeps. -/
structure Reader.State where
  /-- The tokens left. -/
  tokens : List Token
  /-- The anchors so far, the last one first, with their scalars. -/
  anchors : List (List Char × Option Scalar) := []
  /-- What the handles of tags stand for. -/
  handles : List (List Char × List Char) := []

/-- A computation that consumes tokens, or fails. -/
abbrev Reader (α : Type) : Type :=
  StateT Reader.State Option α

namespace Reader

/-- The next token. -/
def peek : Reader (Option Token) := do
  return (← get).tokens.head?

/-- Consumes a token. -/
def advance : Reader Unit :=
  modify fun s => { s with tokens := s.tokens.drop 1 }

/-- Consumes the next token if it is the given one, and tells whether it was. -/
def accept (t : Token) : Reader Bool := do
  if (← peek) = some t then
    advance
    return true
  else
    return false

/-- Consumes a given token. -/
def expect (t : Token) : Reader Unit := do
  unless ← accept t do failure

/-- Whether the next token is one of some, or there is none. -/
def stopsAt (ts : List Token) : Reader Bool := do
  return (← peek).all (ts.contains ·)

/-! ### Properties of nodes -/

/-- The tag that a handle and a suffix give. -/
def resolveTag (handle suffix : List Char) : Reader (List Char) := do
  if handle.isEmpty then
    return suffix
  else
    match (← get).handles.lookup handle with
    | some leading => return leading ++ suffix
    | none => failure

/-- The anchor and the tag in front of a node, in either order. -/
structure Properties where
  /-- The name of the anchor. -/
  anchor : Option (List Char) := none
  /-- The tag in full. -/
  tag : Option (List Char) := none

/-- Reads an anchor if one comes next. -/
def anchor? : Reader (Option (List Char)) := do
  match ← peek with
  | some (.anchor name) =>
    advance
    return some name
  | _ => return none

/-- Reads a tag if one comes next. -/
def tag? : Reader (Option (List Char)) := do
  match ← peek with
  | some (.tag handle suffix) =>
    advance
    return some (← resolveTag handle suffix)
  | _ => return none

/-- Reads the properties of a node. -/
def properties : Reader Properties := do
  match ← anchor? with
  | some name => return ⟨some name, ← tag?⟩
  | none =>
    match ← tag? with
    | some tag => return ⟨← anchor?, some tag⟩
    | none => return {}

/-- Remembers what stands under an anchor. -/
def remember (p : Properties) (content : Option Scalar) : Reader Unit :=
  match p.anchor with
  | some name => modify fun s => { s with anchors := (name, content) :: s.anchors }
  | none => pure ()

/-- The node that an alias stands for. -/
def resolveAlias (name : List Char) : Reader Node := do
  match (← get).anchors.lookup name with
  | some (some s) => return .scalar s
  | some none => return .shared
  | none => failure

/-- A scalar with some properties. -/
def scalar (p : Properties) (style : Style) (text : List Char) : Reader Node := do
  let s : Scalar := ⟨style, p.tag.filter (!·.isEmpty), text⟩
  remember p (some s)
  return .scalar s

/-- A node that is not there. -/
def absent : Node :=
  .scalar {}

/-! ### Nodes -/

mutual

/-- Reads a node. Outside a block it is no block collection; where a sequence need not be
indented, a hyphen begins one. -/
def node (n : Nat) (inBlock unindented : Bool) : Reader Node :=
  match n with
  | 0 => failure
  | n + 1 => do
    match ← peek with
    | some (.alias name) =>
      advance
      resolveAlias name
    | _ => content n inBlock unindented (← properties)

/-- Reads what follows the properties of a node. -/
def content (n : Nat) (inBlock unindented : Bool) (p : Properties) : Reader Node :=
  match n with
  | 0 => failure
  | n + 1 => do
    match ← peek, inBlock, unindented with
    | some .hyphen, _, true =>
      remember p none
      return .sequence (← unindentedItems n)
    | some (.scalar style text), _, _ =>
      advance
      scalar p style text
    | some .openBracket, _, _ =>
      advance
      remember p none
      return .sequence (← flowItems n true)
    | some .openBrace, _, _ =>
      advance
      remember p none
      return .mapping (← flowEntries n true)
    | some .blockSequence, true, _ =>
      advance
      remember p none
      return .sequence (← blockItems n)
    | some .blockMapping, true, _ =>
      advance
      remember p none
      return .mapping (← blockEntries n)
    | _, _, _ =>
      if p.anchor.isSome || p.tag.isSome then scalar p .plain [] else failure

/-- Reads a node unless one of some tokens comes next. -/
def nodeUnless (n : Nat) (stops : List Token) (inBlock unindented : Bool) : Reader Node :=
  match n with
  | 0 => failure
  | n + 1 => do
    match ← peek with
    | some t => if stops.contains t then return absent else node n inBlock unindented
    | none => failure

/-- Reads the items of a block sequence to the end of its indentation. -/
def blockItems (n : Nat) : Reader (List Node) :=
  match n with
  | 0 => failure
  | n + 1 => do
    match ← peek with
    | some .hyphen =>
      advance
      let item ← nodeUnless n [.hyphen, .blockEnd] true false
      return item :: (← blockItems n)
    | some .blockEnd =>
      advance
      return []
    | _ => failure

/-- Reads the items of a sequence that is not indented. -/
def unindentedItems (n : Nat) : Reader (List Node) :=
  match n with
  | 0 => failure
  | n + 1 => do
    match ← peek with
    | some .hyphen =>
      advance
      let item ← nodeUnless n [.hyphen, .key, .value, .blockEnd] true false
      return item :: (← unindentedItems n)
    | _ => return []

/-- Reads the entries of a block mapping to the end of its indentation. -/
def blockEntries (n : Nat) : Reader (List (Node × Node)) :=
  match n with
  | 0 => failure
  | n + 1 => do
    match ← peek with
    | some .key =>
      advance
      let key ← nodeUnless n [.key, .value, .blockEnd] true true
      let value ← blockValue n
      return (key, value) :: (← blockEntries n)
    | some .blockEnd =>
      advance
      return []
    | _ => failure

/-- Reads the value of an entry of a block mapping. -/
def blockValue (n : Nat) : Reader Node :=
  match n with
  | 0 => failure
  | n + 1 => do
    if ← accept .value then nodeUnless n [.key, .value, .blockEnd] true true
    else return absent

/-- Reads the items of a flow sequence to its closing bracket. -/
def flowItems (n : Nat) (first : Bool) : Reader (List Node) :=
  match n with
  | 0 => failure
  | n + 1 => do
    if ← accept .closeBracket then
      return []
    unless first do expect .comma
    match ← peek with
    | some .closeBracket =>
      advance
      return []
    | some .key =>
      advance
      let entry ← flowPair n
      return .mapping [entry] :: (← flowItems n false)
    | _ =>
      let item ← node n false false
      return item :: (← flowItems n false)

/-- Reads a mapping of one entry within a flow sequence. A mark in place of the key is
skipped. -/
def flowPair (n : Nat) : Reader (Node × Node) :=
  match n with
  | 0 => failure
  | n + 1 => do
    if ← stopsAt [.value, .comma, .closeBracket] then
      advance
      return (absent, ← flowValue n [.comma, .closeBracket])
    else
      let key ← node n false false
      return (key, ← flowValue n [.comma, .closeBracket])

/-- Reads the entries of a flow mapping to its closing brace. -/
def flowEntries (n : Nat) (first : Bool) : Reader (List (Node × Node)) :=
  match n with
  | 0 => failure
  | n + 1 => do
    if ← accept .closeBrace then
      return []
    unless first do expect .comma
    match ← peek with
    | some .closeBrace =>
      advance
      return []
    | some .key =>
      advance
      let key ← nodeUnless n [.value, .comma, .closeBrace] false false
      let value ← flowValue n [.comma, .closeBrace]
      return (key, value) :: (← flowEntries n false)
    | _ =>
      let key ← node n false false
      return (key, absent) :: (← flowEntries n false)

/-- Reads the value of an entry in a flow collection. -/
def flowValue (n : Nat) (stops : List Token) : Reader Node :=
  match n with
  | 0 => failure
  | n + 1 => do
    if ← accept .value then nodeUnless n stops false false
    else return absent

end

/-! ### Documents -/

/-- Whether a token is a directive. -/
def isDirective (t : Token) : Bool :=
  match t with
  | .version .. => true
  | .tagDirective .. => true
  | _ => false

/-- The handles that need no declaration. -/
def standardHandles : List (List Char × List Char) :=
  [(['!'], ['!']), (['!', '!'], "tag:yaml.org,2002:".toList)]

/-- Checks the directives of a document: one version at most, of a kind that is known, and one
declaration at most of each handle. The handles declared. -/
def declared? (seen : Bool) (handles : List (List Char × List Char)) (ts : List Token) :
    Option (List (List Char × List Char)) :=
  match ts with
  | [] => some handles
  | .version 1 1 :: rest => if seen then none else declared? true handles rest
  | .version 1 2 :: rest => if seen then none else declared? true handles rest
  | .tagDirective handle leading :: rest =>
    if (handles.lookup handle).isSome then none
    else declared? seen ((handle, leading) :: handles) rest
  | _ => none

/-- Reads the directives of a document. -/
def directives : Reader Unit := do
  let s ← get
  match declared? false [] (s.tokens.takeWhile isDirective) with
  | none => failure
  | some handles =>
    set { s with
      tokens := s.tokens.dropWhile isDirective
      handles := handles ++ standardHandles }

/-- The most calls that the reading of some tokens can nest. -/
def depth (ts : List Token) : Nat :=
  4 * ts.length + 4

/-- Reads the only document, if there is one. -/
def document : Reader (Option Node) := do
  let n := depth (← get).tokens
  match ← peek with
  | none => return none
  | some t =>
    let explicit := isDirective t || t = .documentStart
    directives
    if explicit then expect .documentStart
    match ← peek with
    | none => if explicit then return some absent else failure
    | some t =>
      if explicit && (isDirective t || t = .documentStart || t = .documentEnd) then
        return some absent
      else
        return some (← node n true false)

/-- Reads the only document, and refuses another one behind it. -/
def onlyDocument : Reader (Option Node) := do
  let d ← document
  if (← get).tokens.all (· = .documentEnd) then return d else failure

end Reader

/-- The **node of a text** with at most one document, from its tokens: `none` if they do not
form such a text, and `some none` if there is no document. -/
def Document.ofTokens? (ts : List Token) : Option (Option Node) :=
  (Reader.onlyDocument.run { tokens := ts }).map (·.1)

end Scaffold.Yaml
