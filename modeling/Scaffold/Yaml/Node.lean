import Scaffold.Yaml.Token

/-!
# Nodes of YAML documents

A document is a node: a scalar, or a sequence or mapping of nodes. A scalar keeps the style in
which it is written and its tag, since both decide what it means.
-/

namespace Scaffold.Yaml

/-- A scalar. -/
structure Scalar where
  /-- How it is written. -/
  style : Style := .plain
  /-- Its tag in full, if it has one. -/
  tag : Option (List Char) := none
  /-- Its text. -/
  text : List Char := []
  deriving Repr, DecidableEq, Inhabited

/-- A node. -/
inductive Node where
  | scalar (s : Scalar)
  | sequence (items : List Node)
  | mapping (entries : List (Node × Node))
  /-- A sequence or mapping that is defined under an anchor elsewhere. -/
  | shared
  deriving Inhabited

end Scaffold.Yaml
