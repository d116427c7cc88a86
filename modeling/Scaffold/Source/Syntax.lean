import Scaffold.Source.Token

/-!
# Syntax trees

The part of the target language that generated and hand-written declarations need: imports,
type declarations, constants and functions, with the types and expressions that stand in them.
A tree keeps everything that formatting shows and nothing of how the source was laid out.
-/

namespace Scaffold.Source

/-! ### Types -/

mutual

/-- A name in a path, with its generic arguments. -/
inductive Segment where
  | mk (name : Name) (arguments : List Argument)

/-- A path, which may start at the root of all names. -/
inductive Path where
  | mk (rooted : Bool) (segments : List Segment)

/-- A generic argument. -/
inductive Argument where
  | lifetime (name : Name)
  | type (t : TypeTerm)
  | literal (l : Literal)

/-- What a type is bound by. -/
inductive Bound where
  | lifetime (name : Name)
  /-- A trait, which may be enclosed in parentheses and marked as optional. -/
  | trait (enclosed optional : Bool) (path : Path)

/-- A type. -/
inductive TypeTerm where
  | path (p : Path)
  | reference (lifetime : Option Name) (mutable : Bool) (target : TypeTerm)
  | pointer (mutable : Bool) (target : TypeTerm)
  | slice (element : TypeTerm)
  | array (element : TypeTerm) (length : Literal)
  | tuple (elements : List TypeTerm)
  | enclosed (t : TypeTerm)
  /-- A function that gives nothing. -/
  | procedure (parameters : List TypeTerm)
  | function (parameters : List TypeTerm) (result : TypeTerm)
  /-- A value known by its traits only. -/
  | object (bounds : List Bound)
  | never
  | inferred

end

/-- A parameter of a generic declaration. -/
inductive GenericParameter where
  | lifetime (name : Name) (bounds : List Name)
  | type (name : Name) (bounds : List Bound) (default : Option TypeTerm)
  | constant (name : Name) (type : TypeTerm)

/-- A condition on the types of a generic declaration. -/
structure Condition where
  type : TypeTerm
  bounds : List Bound

/-- What makes a declaration generic. -/
structure Generics where
  parameters : List GenericParameter := []
  conditions : List Condition := []

/-! ### Attributes and visibility -/

/-- A path without arguments. -/
structure PlainPath where
  rooted : Bool
  names : List Name
  deriving Repr, DecidableEq

/-- What an attribute says. -/
inductive AttributeBody where
  | nothing
  /-- Tokens in brackets. -/
  | tokens (d : Delimiter) (ts : List Token)
  | value (l : Literal)
  deriving Repr, DecidableEq

/-- An attribute. -/
structure Attribute where
  /-- Whether it stands inside of what it describes. -/
  inner : Bool
  path : PlainPath
  body : AttributeBody
  deriving Repr, DecidableEq

/-- Who may see a declaration. -/
inductive Visibility where
  | inherited
  | everyone
  /-- Everything below a module. -/
  | within (path : PlainPath)
  deriving Repr, DecidableEq

/-- What an import names. -/
inductive UseTree where
  | path (name : Name) (rest : UseTree)
  | name (name : Name)
  | rename (name target : Name)
  | all
  | group (trees : List UseTree)

/-! ### Declarations of data -/

/-- A field of a record or a variant. -/
structure Field where
  attributes : List Attribute
  visibility : Visibility
  /-- The name; fields that are told apart by their place have none. -/
  name : Option Name
  type : TypeTerm

/-- The fields of a record or a variant. -/
inductive Fields where
  | none
  | positional (fields : List Field)
  | named (fields : List Field)

/-- A variant of an enumeration. -/
structure Variant where
  attributes : List Attribute
  name : Name
  fields : Fields
  value : Option Literal

/-- What a value is bound to. -/
inductive Pattern where
  | anything
  | name (mutable : Bool) (name : Name)
  deriving Repr, DecidableEq

/-- A parameter of a function. -/
structure Parameter where
  pattern : Pattern
  type : TypeTerm

/-- What is said of a function apart from its body. -/
structure Signature where
  /-- The words in front of the function. -/
  qualifiers : List String
  name : Name
  generics : Generics
  parameters : List Parameter
  result : Option TypeTerm

/-! ### Expressions and declarations -/

mutual

/-- An expression. -/
inductive Expr where
  | literal (l : Literal)
  | path (p : Path)
  | reference (mutable : Bool) (e : Expr)
  | unary (operator : Char) (e : Expr)
  | binary (left : Expr) (operator : String) (right : Expr)
  | enclosed (e : Expr)
  | tuple (elements : List Expr)
  | array (elements : List Expr)
  | repeated (element : Expr) (length : Expr)
  | record (type : Path) (members : List Member)
  | call (function : Expr) (arguments : List Expr)
  /-- A function without a name. -/
  | closure (parameters : List Pattern) (body : List Statement)

/-- The value of a field. -/
inductive Member where
  /-- The value is bound to the field's name. -/
  | short (name : Name)
  | full (name : Name) (value : Expr)

/-- A statement. -/
inductive Statement where
  | binding (pattern : Pattern) (type : Option TypeTerm) (value : Option Expr)
  | declaration (item : Item)
  /-- An expression, and whether a semicolon follows it. -/
  | expression (e : Expr) (ended : Bool)
  | empty

/-- A declaration. -/
inductive Item where
  | mk (attributes : List Attribute) (visibility : Visibility) (kind : ItemKind)

/-- What a declaration declares. -/
inductive ItemKind where
  | use (rooted : Bool) (tree : UseTree)
  | library (name : Name) (rename : Option Name)
  | record (name : Name) (generics : Generics) (fields : Fields)
  | enumeration (name : Name) (generics : Generics) (variants : List Variant)
  | constant (name : Name) (type : TypeTerm) (value : Expr)
  | static (mutable : Bool) (name : Name) (type : TypeTerm) (value : Expr)
  /-- A module whose content is elsewhere. -/
  | outerModule (name : Name)
  | module (name : Name) (items : List Item)
  | alias (name : Name) (generics : Generics) (type : TypeTerm)
  | trait (name : Name) (generics : Generics) (bounds : List Bound)
  | implementation (generics : Generics) (trait : Option Path) (type : TypeTerm)
  | function (signature : Signature) (body : List Statement)

end

/-- A file. -/
structure File where
  /-- The line that names the interpreter, from its marks on. -/
  shebang : Option (List Char)
  attributes : List Attribute
  items : List Item

/-- Whether a bound is a trait. -/
def Bound.isTrait (b : Bound) : Bool :=
  match b with
  | .trait .. => true
  | .lifetime _ => false

/-- The path that a name is. -/
def Path.ofName (n : Name) : Path :=
  .mk false [.mk n []]

end Scaffold.Source
