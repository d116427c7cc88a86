import Scaffold.Error
import Scaffold.Source.Header
import Scaffold.Source.Reader.Items
import Scaffold.Source.Token.Lexer
import Scaffold.Source.Writer.Items

/-!
# Formatting source

Source is formatted by reading its syntax tree and laying the tree out anew. The header comments
are kept as they are. How trees are read and laid out is a matter of the language, and of it the
part that generated source and small declarations need is given here.

## Main definitions

* `Language` - a parser and a printer of source.
* `Language.format` - the formatted source.
* `rust` - the language of generated source.
-/

namespace Scaffold.Source

/-- The character that marks the order of bytes at the start of a text. -/
def byteOrderMark : Char := '\uFEFF'

/-- A text without a byte order mark in front of it. -/
def withoutMark (cs : List Char) : List Char :=
  match cs with
  | c :: rest => if c = byteOrderMark then rest else cs
  | [] => []

/-- Whether a source begins with a line that names the interpreter, and not with an attribute
that begins with the same marks. -/
def startsShebang (cs : List Char) : Bool :=
  match cs with
  | '#' :: '!' :: rest => (skip rest).head? ≠ some '['
  | _ => false

/-- The line that names the interpreter, and the rest of the source from the end of that line
on. -/
def splitShebang (cs : List Char) : Option (List Char) × List Char :=
  if startsShebang cs then (some (cs.takeWhile (· ≠ '\n')), cs.dropWhile (· ≠ '\n'))
  else (none, cs)

/-- The **syntax tree of a source** without its header; `none` if it has none, or one with an item,
a statement or an expression that is not among those of `Item`, `Statement` and `Expr`. -/
def File.read? (cs : List Char) : Option File :=
  let (shebang, rest) := splitShebang (withoutMark cs)
  (tokens? (withoutMark rest)).bind (File.ofTokens? shebang)

/-- A **language** whose source is formatted. -/
structure Language where
  /-- The syntax trees. -/
  Tree : Type
  /-- The parser: the tree of a source without its header. -/
  read? : List Char → Option Tree
  /-- The printer: the source of a tree, laid out anew. -/
  layOut : Tree → List Char

/-- The **formatted source**. -/
def Language.format (L : Language) (source : String) : Except Error String :=
  let (header, body) := splitHeader source.toList
  match L.read? body with
  | some f => .ok (String.ofList (joinHeader header (L.layOut f)))
  | none => .error .format

/-- The language of generated source. -/
def rust : Language where
  Tree := File
  read? := File.read?
  layOut f := Layout.render f.doc

/-- The **formatted source** of that language. -/
def format (source : String) : Except Error String :=
  rust.format source

end Scaffold.Source
