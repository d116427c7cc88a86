/-!
# Tokens of YAML texts

A YAML text is a sequence of tokens. Some of them are marks of the text; others stand where
the indentation of a block begins or ends, or where a mapping key begins that no mark announces.
-/

namespace Scaffold.Yaml

/-- How a scalar is written. -/
inductive Style where
  /-- Without quotes. -/
  | plain
  | singleQuoted
  | doubleQuoted
  /-- As indented lines whose ends are kept. -/
  | literal
  /-- As indented lines whose ends are folded. -/
  | folded
  deriving Repr, DecidableEq

/-- A token. -/
inductive Token where
  /-- The directive that gives the version of the format. -/
  | version (major minor : Nat)
  /-- The directive that declares a handle for tags. -/
  | tagDirective (handle leading : List Char)
  | documentStart
  | documentEnd
  /-- The indentation of a block sequence begins. -/
  | blockSequence
  /-- The indentation of a block mapping begins. -/
  | blockMapping
  /-- The indentation of a block ends. -/
  | blockEnd
  | openBracket
  | closeBracket
  | openBrace
  | closeBrace
  /-- The hyphen of a block sequence. -/
  | hyphen
  /-- The comma of a flow collection. -/
  | comma
  /-- A key of a mapping begins. -/
  | key
  /-- A value of a mapping begins. -/
  | value
  /-- A node that has the name of an anchor. -/
  | alias (name : List Char)
  | anchor (name : List Char)
  | tag (handle suffix : List Char)
  | scalar (style : Style) (text : List Char)
  deriving Repr, DecidableEq

end Scaffold.Yaml
