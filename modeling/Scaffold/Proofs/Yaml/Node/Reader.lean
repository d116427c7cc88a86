import Scaffold.Proofs.Yaml.Token.Lexer
import Scaffold.Yaml.Node.Reader

/-!
# The document of a mapping

The tokens of a mapping give a node for every entry, in their order: a scalar for the name, and one
for the text or the null. The bound on the depth of the descent is not reached.

## Main results

* `blockEntries_run` - the entries of a mapping.
* `Document.ofTokens?_mapping` - the document of a mapping.
-/

namespace Scaffold.Yaml

namespace Reader

variable {entries : List (List Char × Option (List Char))}

/-- The scalar of a text or a null. -/
def valueScalar (value : Option (List Char)) : Scalar :=
  match value with
  | some cs => { style := styleOf cs, text := cs }
  | none => { text := "null".toList }

/-- The nodes of an entry. -/
def entryNodes (entry : List Char × Option (List Char)) : Node × Node :=
  (.scalar { text := entry.1 }, .scalar (valueScalar entry.2))

/-- The token of a text or a null is that of its **scalar**. -/
theorem scalarToken_eq (value : Option (List Char)) :
    Lexer.scalarToken value = .scalar (valueScalar value).style (valueScalar value).text := by
  cases value <;> rfl

/-- A scalar has no tag of its own. -/
theorem valueScalar_eq (value : Option (List Char)) :
    valueScalar value = ⟨(valueScalar value).style, none, (valueScalar value).text⟩ := by
  cases value <;> rfl

/-- The four tokens of an **entry** give its two nodes. -/
theorem blockEntries_cons (s : State) (n : Nat) (entry : List Char × Option (List Char))
    (rest : List Token) :
    (blockEntries (n + 5)).run { s with tokens := Lexer.entryTokens entry ++ rest } =
      ((blockEntries (n + 4)).run { s with tokens := rest }).bind fun (nodes, s) =>
        some (entryNodes entry :: nodes, s) := by
  rw [Lexer.entryTokens, scalarToken_eq, entryNodes, valueScalar_eq]
  rfl

/-- The **entries of a mapping** are read to the end of its block. -/
theorem blockEntries_run (s : State) (n : Nat) (rest : List Token) :
    (blockEntries (n + 5 + entries.length)).run
        { s with tokens := entries.flatMap Lexer.entryTokens ++ .blockEnd :: rest } =
      some (entries.map entryNodes, { s with tokens := rest }) := by
  induction entries with
  | nil => rfl
  | cons entry entries ih =>
    have hbound : n + 5 + (entry :: entries).length = n + 1 + entries.length + 5 := by
      rw [List.length_cons]
      omega
    have hless : n + 1 + entries.length + 4 = n + 5 + entries.length := by omega
    rw [hbound, List.flatMap_cons, List.append_assoc, blockEntries_cons, hless, ih]
    rfl

/-- A document that begins a block is **one node**, read with the handles that need no
declaration. -/
theorem document_run (tokens : List Token) :
    document.run { tokens := .blockMapping :: tokens } =
      ((node (depth (.blockMapping :: tokens)) true false).run
        { tokens := .blockMapping :: tokens, handles := standardHandles }).bind fun (d, s) =>
          some (some d, s) :=
  rfl

/-- A block mapping is read from its **entries**. -/
theorem node_run (n : Nat) (s : State) (tokens : List Token) :
    (node (n + 2) true false).run { s with tokens := .blockMapping :: tokens } =
      ((blockEntries n).run { s with tokens := tokens }).bind fun (entries, s) =>
        some (.mapping entries, s) :=
  rfl

end Reader

/-- The **document of a mapping** whose entries are written one after the other. -/
theorem Document.ofTokens?_mapping (entries : List (List Char × Option (List Char))) :
    ofTokens? (.blockMapping :: entries.flatMap Lexer.entryTokens ++ [.blockEnd]) =
      some (some (.mapping (entries.map Reader.entryNodes))) := by
  have hlength : (entries.flatMap Lexer.entryTokens).length = 4 * entries.length := by
    simp [List.length_flatMap, Lexer.entryTokens, Nat.mul_comm]
  have hdepth : Reader.depth (.blockMapping :: (entries.flatMap Lexer.entryTokens ++ [.blockEnd])) =
      15 * entries.length + 5 + 5 + entries.length + 2 := by
    simp only [Reader.depth, List.length_cons, List.length_append, hlength, List.length_nil]
    omega
  have hdocument : Reader.document.run
      { tokens := .blockMapping :: (entries.flatMap Lexer.entryTokens ++ [.blockEnd]) } =
        some (some (.mapping (entries.map Reader.entryNodes)),
          { tokens := [], handles := Reader.standardHandles }) := by
    rw [Reader.document_run, hdepth, Reader.node_run _ ⟨[], [], Reader.standardHandles⟩,
      Reader.blockEntries_run]
    rfl
  rw [ofTokens?, List.cons_append, Reader.onlyDocument, StateT.run_bind, hdocument]
  rfl

end Scaffold.Yaml
