import Scaffold.Source.Reader.Attributes

/-!
# Reading expressions and declarations

Expressions and declarations contain each other, since a function may stand in the body of an
expression. Both are read with a bound on the depth; each level takes a token, so the number of
tokens bounds it.

## Main definitions

* `Reader.items` - reads declarations.
* `File.read?` - the file that tokens give.
-/

namespace Scaffold.Source

/-! ### Operators -/

/-- The operators between two expressions, each with its rank, longer ones before those that
they begin with. -/
def operators : List (String × Nat) := [
  ("&&", 2), ("||", 1), ("<<", 7), (">>", 7), ("==", 3), ("!=", 3), ("<=", 3), (">=", 3),
  ("*", 9), ("/", 9), ("%", 9), ("+", 8), ("-", 8), ("&", 6), ("^", 5), ("|", 4), ("<", 3),
  (">", 3)]

/-- The rank of the comparisons, which cannot be chained. -/
def comparisonRank : Nat := 3

/-- How tightly an operator binds. -/
def rank (operator : String) : Nat :=
  (operators.lookup operator).getD 0

/-- Adds an operation to the right of an expression. Operators of one rank group to the left. -/
def Expr.extend (e : Expr) (operator : String) (operand : Expr) : Option Expr :=
  match e with
  | .binary l o r =>
    if rank o < rank operator then
      (r.extend operator operand).map fun r => .binary l o r
    else if rank o = comparisonRank ∧ rank operator = comparisonRank then
      none
    else
      some (.binary (.binary l o r) operator operand)
  | e => some (.binary e operator operand)

namespace Reader

/-- The operator that follows. -/
def operator? (ts : List Token) : Option String :=
  (operators.find? fun o => startsMarks o.1 ts).map (·.1)

/-- Reads operations on an expression. -/
def operations (n : Nat) (operand : Reader Expr) (e : Expr) : Reader Expr :=
  match n with
  | 0 => return e
  | n + 1 => do
    match operator? (← get) with
    | none => return e
    | some o =>
      marks o
      let r ← operand
      operations n operand (← liftM (e.extend o r))

/-- Reads an expression, given how its operands are read. -/
def expression (operand : Reader Expr) : Reader Expr := do
  let first ← operand
  operations (← get).length operand first

/-! ### Operands -/

/-- Reads what parentheses enclose. -/
def parenthesized (e : Reader Expr) : Reader Expr :=
  within .paren do
    if ← ahead startsClosing then
      return .tuple []
    let first ← e
    if ← optionalMarks "," then
      return .tuple (first :: (← commaList startsClosing e))
    else
      return .enclosed first

/-- Reads an array. -/
def array (e : Reader Expr) : Reader Expr :=
  within .bracket do
    if ← ahead startsClosing then
      return .array []
    let first ← e
    if ← optionalMarks ";" then
      return .repeated first (← e)
    else if ← optionalMarks "," then
      return .array (first :: (← commaList startsClosing e))
    else
      return .array [first]

/-- Reads the value of a field. -/
def member (e : Reader Expr) : Reader Member := do
  let n ← identifier
  if ← optionalMarks ":" then
    return .full n (← e)
  else
    return .short n

/-- Reads a pattern. -/
def pattern : Reader Pattern := do
  if ← optionalWord "_" then
    return .anything
  else
    let mutable ← optionalWord "mut"
    return .name mutable (← identifier)

/-- Reads statements with the braces around them. -/
def block (statement : Reader Statement) : Reader (List Statement) :=
  within .brace (many (!startsClosing ·) statement)

/-- Reads a function without a name. -/
def closure (statement : Reader Statement) : Reader Expr := do
  marks "|"
  let ps ← commaList (startsMarks "|") pattern
  marks "|"
  return .closure ps (← block statement)

/-- Reads a path, or the record whose type it names. -/
def pathOrRecord (e : Reader Expr) : Reader Expr := do
  let p ← path true typeTerm
  if ← ahead (startsOpening .brace) then
    return .record p (← listWithin .brace (member e))
  else
    return .path p

/-- Reads an expression to which nothing is applied. -/
def atom (e : Reader Expr) (statement : Reader Statement) : Reader Expr := do
  match ← get with
  | .literal _ :: _ => return .literal (← literal)
  | ts =>
    if startsAnyOf ["true", "false"] ts then
      return .literal ⟨.boolean, (← anyName).text⟩
    else if startsOpening .paren ts then
      parenthesized e
    else if startsOpening .bracket ts then
      array e
    else if startsMarks "|" ts then
      closure statement
    else
      pathOrRecord e

/-- Reads the calls of an expression. -/
def calls (e : Reader Expr) (function : Expr) : Reader Expr := do
  let arguments ← many (startsOpening .paren) (listWithin .paren e)
  return arguments.foldl .call function

/-- The operator in front of an expression that follows. -/
def prefixOperator? (ts : List Token) : Option Char :=
  ['*', '!', '-'].find? fun c => startsMarks c.toString ts

/-! ### Statements -/

/-- Reads the declaration of a value within a body. -/
def binding (e : Reader Expr) : Reader Statement := do
  word "let"
  let p ← pattern
  let t ← if ← optionalMarks ":" then some <$> typeTerm else pure none
  let v ← if ← optionalMarks "=" then some <$> e else pure none
  marks ";"
  return .binding p t v

/-- The words with which a declaration begins. -/
def itemWords : List String := [
  "pub", "use", "static", "const", "fn", "mod", "type", "struct", "enum", "trait", "impl",
  "extern", "unsafe", "async"]

/-- Whether a declaration follows. -/
def startsItem (ts : List Token) : Bool :=
  startsAnyOf itemWords ts || startsMarks "#" ts

/-- Reads a statement. An expression without a semicolon has to be the last one. -/
def statement (e : Reader Expr) (item : Reader Item) : Reader Statement := do
  let ts ← get
  if startsMarks ";" ts then
    marks ";"
    return .empty
  else if startsWord "let" ts then
    binding e
  else if startsItem ts then
    return .declaration (← item)
  else
    let value ← e
    let ended ← optionalMarks ";"
    require (ended || startsClosing (← get))
    return .expression value ended

/-! ### Declarations of data -/

/-- Reads a field of a record. -/
def namedField : Reader Field := do
  let attributes ← outerAttributes
  let visibility ← visibility
  let name ← newName
  marks ":"
  return ⟨attributes, visibility, some name, ← typeTerm⟩

/-- Reads a field that is told apart by its place. -/
def positionalField : Reader Field := do
  let attributes ← outerAttributes
  let visibility ← visibility
  return ⟨attributes, visibility, none, ← typeTerm⟩

/-- Reads the fields of a variant. -/
def variantFields : Reader Fields := do
  let ts ← get
  if startsOpening .brace ts then
    return .named (← listWithin .brace namedField)
  else if startsOpening .paren ts then
    return .positional (← listWithin .paren positionalField)
  else
    return .none

/-- Reads a variant. A visibility may stand in front of it, and says nothing. -/
def variant : Reader Variant := do
  let attributes ← outerAttributes
  let _ ← visibility
  let name ← identifier
  let fields ← variantFields
  let value ← if ← optionalMarks "=" then some <$> literal else pure none
  return ⟨attributes, name, fields, value⟩

/-- Reads the conditions and fields of a record. -/
def recordFields : Reader (List Condition × Fields) := do
  if ← ahead (startsOpening .paren) then
    let fields ← listWithin .paren positionalField
    let cs ← conditions
    marks ";"
    return (cs, .positional fields)
  else
    let cs ← conditions
    if ← ahead (startsOpening .brace) then
      return (cs, .named (← listWithin .brace namedField))
    else
      marks ";"
      return (cs, .none)

/-- Reads the declaration of a record. -/
def recordItem : Reader ItemKind := do
  word "struct"
  let name ← identifier
  let ps ← genericParameters
  let (cs, fields) ← recordFields
  return .record name ⟨ps, cs⟩ fields

/-- Reads the declaration of an enumeration. -/
def enumerationItem : Reader ItemKind := do
  word "enum"
  let name ← identifier
  let ps ← genericParameters
  let cs ← conditions
  return .enumeration name ⟨ps, cs⟩ (← listWithin .brace variant)

/-! ### Other declarations -/

/-- Reads an import. -/
def useItem : Reader ItemKind := do
  word "use"
  let rooted ← optionalMarks "::"
  let tree ← useTree
  marks ";"
  return .use rooted tree

/-- Reads the declaration of another library. -/
def libraryItem : Reader ItemKind := do
  word "extern"
  word "crate"
  let name ← if ← ahead (startsWord "self") then anyName else identifier
  let rename ← if ← optionalWord "as" then some <$> newName else pure none
  marks ";"
  return .library name rename

/-- Reads the type and value of a constant. -/
def typeAndValue (e : Reader Expr) : Reader (TypeTerm × Expr) := do
  marks ":"
  let t ← typeTerm
  marks "="
  let v ← e
  marks ";"
  return (t, v)

/-- Reads the declaration of a constant. -/
def constantItem (e : Reader Expr) : Reader ItemKind := do
  word "const"
  let name ← newName
  let (t, v) ← typeAndValue e
  return .constant name t v

/-- Reads the declaration of a static value. -/
def staticItem (e : Reader Expr) : Reader ItemKind := do
  word "static"
  let mutable ← optionalWord "mut"
  let name ← identifier
  let (t, v) ← typeAndValue e
  return .static mutable name t v

/-- Reads the declaration of another name for a type. -/
def aliasItem : Reader ItemKind := do
  word "type"
  let name ← identifier
  let ps ← genericParameters
  marks "="
  let t ← typeTerm
  marks ";"
  return .alias name ⟨ps, []⟩ t

/-- Whether the bounds of a trait end. -/
def endsTraitBounds (ts : List Token) : Bool :=
  startsWord "where" ts || startsOpening .brace ts

/-- Reads the declaration of a trait without items. -/
def traitItem : Reader (List Attribute × ItemKind) := do
  word "trait"
  let name ← identifier
  let ps ← genericParameters
  let bounds ← if ← optionalMarks ":" then boundsUntil endsTraitBounds (bound typeTerm) else pure []
  let cs ← conditions
  let inner ← within .brace innerAttributes
  return (inner, .trait name ⟨ps, cs⟩ bounds)

/-- The path that a type is. -/
def path? (t : TypeTerm) : Option Path :=
  match t with
  | .path p => some p
  | _ => none

/-- Whether generic parameters follow, and not a type in angle brackets. -/
def startsParameters (ts : List Token) : Bool :=
  match ts with
  | .mark '<' _ :: .mark '>' _ :: _ => true
  | .mark '<' _ :: .name n :: rest =>
    if n.isWord "const" then true
    else n.isIdentifier && (endsBounds rest || startsMarks ":" rest)
  | .mark '<' _ :: .lifetime _ :: rest => endsBounds rest || startsMarks ":" rest
  | _ => false

/-- Reads an implementation without items. -/
def implementationItem : Reader (List Attribute × ItemKind) := do
  word "impl"
  let ps ← if ← ahead startsParameters then genericParameters else pure []
  let first ← typeTerm
  let (trait, type) ←
    if ← optionalWord "for" then do
      let p ← liftM (path? first)
      pure (some p, ← typeTerm)
    else
      pure (none, first)
  let cs ← conditions
  let inner ← within .brace innerAttributes
  return (inner, .implementation ⟨ps, cs⟩ trait type)

/-- Reads a parameter of a function. -/
def parameter : Reader Parameter := do
  let p ← pattern
  marks ":"
  return ⟨p, ← typeTerm⟩

/-- The words that may stand in front of a function, in their order. -/
def qualifierWords : List String :=
  ["const", "async", "unsafe"]

/-- Whether a function follows, behind some of the given words. -/
def startsFunction (words : List String) (ts : List Token) : Bool :=
  match words with
  | [] => startsWord "fn" ts
  | w :: words =>
    match ts with
    | t :: rest =>
      startsFunction words (if startsWord w (t :: rest) then rest else t :: rest)
    | [] => false

/-- Reads the words in front of a function. -/
def qualifiers (words : List String) : Reader (List String) :=
  match words with
  | [] => return []
  | w :: words => do
    let present ← optionalWord w
    let rest ← qualifiers words
    return if present then w :: rest else rest

/-- Reads a function up to its body. -/
def signature : Reader Signature := do
  let qs ← qualifiers qualifierWords
  word "fn"
  let name ← identifier
  let ps ← genericParameters
  let parameters ← listWithin .paren parameter
  let result ← if ← optionalMarks "->" then some <$> typeTerm else pure none
  let cs ← conditions
  return ⟨qs, name, ⟨ps, cs⟩, parameters, result⟩

/-- Reads a function. -/
def functionItem (statement : Reader Statement) : Reader (List Attribute × ItemKind) := do
  let s ← signature
  within .brace do
    let inner ← innerAttributes
    let body ← many (!startsClosing ·) statement
    return (inner, .function s body)

/-- Reads a module. -/
def moduleItem (item : Reader Item) : Reader (List Attribute × ItemKind) := do
  word "mod"
  let name ← identifier
  if ← optionalMarks ";" then
    return ([], .outerModule name)
  else
    within .brace do
      let inner ← innerAttributes
      return (inner, .module name (← many (!startsClosing ·) item))

/-- Reads what a declaration declares, and the attributes within its body. -/
def itemKind (visibility : Visibility) (e : Reader Expr) (statement : Reader Statement)
    (item : Reader Item) : Reader (List Attribute × ItemKind) := do
  let plain (r : Reader ItemKind) : Reader (List Attribute × ItemKind) := do
    return ([], ← r)
  let ts ← get
  if startsFunction qualifierWords ts then functionItem statement
  else if startsWord "use" ts then plain useItem
  else if startsWord "extern" ts then plain libraryItem
  else if startsWord "struct" ts then plain recordItem
  else if startsWord "enum" ts then plain enumerationItem
  else if startsWord "const" ts then plain (constantItem e)
  else if startsWord "static" ts then plain (staticItem e)
  else if startsWord "type" ts then plain aliasItem
  else if startsWord "trait" ts then traitItem
  else if startsWord "mod" ts then moduleItem item
  else do
    require (visibility = .inherited)
    implementationItem

/-- Reads a declaration, given how its parts are read. -/
def itemOf (e : Reader Expr) (statement : Reader Statement) (item : Reader Item) :
    Reader Item := do
  let outer ← outerAttributes
  let v ← visibility
  let (inner, kind) ← itemKind v e statement item
  return .mk (outer ++ inner) v kind

mutual

/-- Reads an operand of at most `n` levels. -/
def operandWithin (n : Nat) : Reader Expr :=
  match n with
  | 0 => failure
  | n + 1 => do
    let ts ← get
    if startsMarks "&" ts then
      marks "&"
      let mutable ← optionalWord "mut"
      return .reference mutable (← operandWithin n)
    else
      match prefixOperator? ts with
      | some o =>
        marks o.toString
        return .unary o (← operandWithin n)
      | none =>
        let e := expression (operandWithin n)
        calls e (← atom e (statement e (itemWithin n)))

/-- Reads a declaration of at most `n` levels. -/
def itemWithin (n : Nat) : Reader Item :=
  match n with
  | 0 => failure
  | n + 1 =>
    let e := expression (operandWithin n)
    itemOf e (statement e (itemWithin n)) (itemWithin n)

end

/-- Reads declarations to the end. -/
def items : Reader (List Item) := do
  let n := (← get).length
  many (!List.isEmpty ·) (itemWithin (n + 1))

/-- Reads the attributes and declarations of a file. -/
def file (shebang : Option (List Char)) : Reader File := do
  let inner ← innerAttributes
  return ⟨shebang, inner, ← items⟩

end Reader

/-- The **file that tokens give**; `none` if they give none. -/
def File.ofTokens? (shebang : Option (List Char)) (ts : List Token) : Option File :=
  match Reader.file shebang ts with
  | some (f, []) => some f
  | _ => none

end Scaffold.Source
