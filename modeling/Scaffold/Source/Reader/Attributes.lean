import Scaffold.Source.Reader.Types

/-!
# Reading attributes, visibility and imports

What stands in front of a declaration, and the trees of imported names.
-/

namespace Scaffold.Source.Reader

/-! ### Attributes -/

/-- Whether a name may stand in a path without arguments. -/
def startsPlainName (ts : List Token) : Bool :=
  match ts with
  | .name n :: _ =>
    n.isIdentifier || ["super", "self", "Self", "crate"].any fun w => n.isWord w
  | _ => false

/-- Reads a path without arguments. -/
def plainPath : Reader PlainPath := do
  let rooted ← optionalMarks "::"
  require (← ahead startsPlainName)
  let first ← anyName
  let rest ← many (startsMarks "::") do
    marks "::"
    require (← ahead startsPlainName)
    anyName
  return ⟨rooted, first :: rest⟩

/-- The tokens up to the closing bracket of the group in which they stand, and what follows
them, from within a list of inner brackets. -/
def balanced? (inner : List Delimiter) (ts : List Token) : Option (List Token × List Token) :=
  match ts with
  | [] => none
  | t :: rest =>
    let keep (inner : List Delimiter) : Option (List Token × List Token) :=
      (balanced? inner rest).map fun (inside, more) => (t :: inside, more)
    match t, inner with
    | .opening d, inner => keep (d :: inner)
    | .closing _, [] => some ([], t :: rest)
    | .closing d, e :: outer => if d = e then keep outer else none
    | _, inner => keep inner

/-- Reads the tokens up to the closing bracket of the group in which they stand. -/
def balanced : Reader (List Token) := fun ts =>
  balanced? [] ts

/-- Reads what an attribute says behind its path. -/
def attributeBody : Reader AttributeBody := do
  match ← get with
  | .opening d :: _ => return .tokens d (← within d balanced)
  | ts =>
    if startsMarks "=" ts then
      marks "="
      return .value (← literal)
    else
      return .nothing

/-- Reads an attribute. -/
def oneAttribute (inner : Bool) : Reader Attribute := do
  marks "#"
  if inner then
    marks "!"
  within .bracket do
    let p ← plainPath
    return ⟨inner, p, ← attributeBody⟩

/-- Whether an inner attribute follows. -/
def startsInner (ts : List Token) : Bool :=
  match ts with
  | .mark '#' _ :: .mark '!' _ :: _ => true
  | _ => false

/-- Reads the attributes in front of a declaration. -/
def outerAttributes : Reader (List Attribute) :=
  many (startsMarks "#") (oneAttribute false)

/-- Reads the attributes at the start of a body. -/
def innerAttributes : Reader (List Attribute) :=
  many startsInner (oneAttribute true)

/-! ### Visibility -/

/-- Reads the module that limits a visibility. -/
def scope : Reader PlainPath := do
  if ← optionalWord "in" then
    plainPath
  else
    require (← ahead (startsAnyOf ["crate", "self", "super"]))
    return ⟨false, [← anyName]⟩

/-- Reads who may see a declaration. Parentheses that enclose no module are not part of it. -/
def visibility : Reader Visibility := do
  if ← optionalWord "pub" then
    (do return .within (← within .paren scope)) <|> return .everyone
  else
    return .inherited

/-! ### Imports -/

/-- Whether a name may stand in an import. -/
def startsImported (ts : List Token) : Bool :=
  match ts with
  | .name n :: _ => n.isIdentifier || pathWords.any fun w => n.isWord w
  | _ => false

/-- Reads the name that an import gives. -/
def newName : Reader Name := do
  if ← ahead (startsWord "_") then anyName else identifier

/-- Reads a tree of imported names of at most `n` levels. -/
def useTreeWithin (n : Nat) : Reader UseTree :=
  match n with
  | 0 => failure
  | n + 1 => do
    let ts ← get
    if startsOpening .brace ts then
      return .group (← listWithin .brace (useTreeWithin n))
    else if startsMarks "*" ts then
      marks "*"
      return .all
    else
      require (startsImported ts)
      let name ← anyName
      if ← optionalMarks "::" then
        return .path name (← useTreeWithin n)
      else if ← optionalWord "as" then
        return .rename name (← newName)
      else
        return .name name

/-- Reads a tree of imported names. -/
def useTree : Reader UseTree := do
  useTreeWithin ((← get).length + 1)

end Scaffold.Source.Reader
