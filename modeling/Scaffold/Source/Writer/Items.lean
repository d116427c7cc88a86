import Scaffold.Source.Writer.Attributes

/-!
# Laying out expressions and declarations

Every declaration ends its line. Bodies of functions and modules have one statement or
declaration per line; the body of a function without a name may stand on its line if it is a
single expression.

## Main definitions

* `File.doc` - a file, laid out.
-/

namespace Scaffold.Source

open Layout (Doc outdented)

/-! ### Declarations of data -/

/-- A field, laid out. -/
def Field.docs (f : Field) : List Doc :=
  outerDocs f.attributes ++ f.visibility.docs ++
    (match f.name with
    | some n => [n.doc, .ofString ": "]
    | none => []) ++
    f.type.docs

/-- Fields that are told apart by their place, laid out. -/
def positionalDocs (fs : List Field) : List Doc :=
  bracketed "(" ")" (fs.map Field.docs)

/-- What braces enclose, one part per line, with the opening brace behind a head. -/
def braced (head body : List Doc) : List Doc :=
  [.box { indent := indentStep }
    (head ++ .ofString "\x7b" ::
      if body.isEmpty then [.edge] else outdented indentStep (.lineEnd :: body)),
    .ofString "\x7d", .lineEnd]

/-- Parts that end their lines with a comma. -/
def commaLines (parts : List (List Doc)) : List Doc :=
  parts.flatMap fun p => p ++ [.ofString ",", .lineEnd]

/-- The fields of a variant, laid out. -/
def Fields.variantDocs (fs : Fields) : List Doc :=
  match fs with
  | .none => []
  | .positional fs => [.box { indent := indentStep } (positionalDocs fs)]
  | .named [] => [.ofString " \x7b\x7d"]
  | .named fs =>
    [.ofString " \x7b", .box { indent := indentStep } (.space :: listDocs 1 (fs.map Field.docs)),
      .ofString "\x7d"]

/-- A variant, laid out. -/
def Variant.docs (v : Variant) : List Doc :=
  outerDocs v.attributes ++ v.name.doc :: v.fields.variantDocs ++
    (match v.value with
    | some l => [.ofString " = ", l.doc]
    | none => [])

/-- The rest of the declaration of a record, laid out. -/
def recordDocs (head : List Doc) (conditions : List Condition) (fs : Fields) : List Doc :=
  match fs with
  | .named fs => braced (head ++ bodyConditionDocs conditions) (commaLines (fs.map Field.docs))
  | .positional fs =>
    [.box { indent := indentStep } (head ++ positionalDocs fs ++ endConditionDocs conditions),
      .lineEnd]
  | .none => [.box { indent := indentStep } (head ++ endConditionDocs conditions), .lineEnd]

/-! ### Functions -/

/-- A pattern, laid out. -/
def Pattern.docs (p : Pattern) : List Doc :=
  match p with
  | .anything => [.ofString "_"]
  | .name mutable n => (if mutable then [.ofString "mut "] else []) ++ [n.doc]

/-- A parameter, laid out. -/
def Parameter.docs (p : Parameter) : List Doc :=
  p.pattern.docs ++ .ofString ": " :: p.type.docs

/-- A function up to its conditions, laid out. -/
def Signature.docs (s : Signature) : List Doc :=
  s.qualifiers.map (fun w => .ofString (w ++ " ")) ++ .ofString "fn " :: s.name.doc ::
    genericDocs s.generics.parameters ++ .ofString "(" :: .edge ::
    insideBox 0 (listDocs 0 (s.parameters.map Parameter.docs)) ++ .ofString ")" ::
    (match s.result with
    | some t => [.box { indent := -indentStep } (.ofString " -> " :: t.docs)]
    | none => [])

/-! ### Expressions -/

/-- The most bytes that a record may have on one line. -/
def recordLimit : Nat := 34

/-- Whether an expression is short in every case, so that many of them share a line. -/
def Expr.isShort (e : Expr) : Bool :=
  match e with
  | .literal l => [.byte, .character, .integer, .boolean].contains l.kind
  | _ => false

/-- Whether an expression has brackets of its own, so that those of a call that it alone is the
argument of stand close to them. -/
def Expr.isBracketed (e : Expr) : Bool :=
  match e with
  | .tuple _ => true
  | .array _ => true
  | .record .. => true
  | .closure .. => true
  | _ => false

/-- The elements of an array that share lines, laid out. -/
def sharedLines (elements : List (List Doc)) : List Doc :=
  match elements with
  | [] => []
  | [e] => e
  | e :: rest => e ++ .ofString "," :: .space :: sharedLines rest

/-- An array, laid out. -/
def arrayDocs (short : Bool) (elements : List (List Doc)) : List Doc :=
  if elements.isEmpty then
    [.ofString "[]"]
  else if short then
    [.box { indent := indentStep } [.ofString "[", .softEnd,
      .box { filled := true } (sharedLines elements),
      .gap { offset := -indentStep, comma := true }, .ofString "]"]]
  else
    bracketed "[" "]" elements

/-- A record, laid out. -/
def memberDocs (path : List Doc) (members : List (List Doc)) : List Doc :=
  [.box { indent := indentStep, limit := some recordLimit }
    (path ++ .ofString " \x7b" ::
      if members.isEmpty then [.gap { blank := 1, offset := -indentStep, vanishing := true }]
      else .space :: listDocs 1 members),
    .ofString "\x7d"]

/-- The parameters of a function without a name, laid out. -/
def closureDocs (ps : List Pattern) : Doc :=
  .box { indent := indentStep }
    (.ofString "|" :: (if ps.isEmpty then [] else [.softEnd]) ++
      sharedLines (ps.map Pattern.docs) ++
      [.ofString "|", .gap { blank := 1, offset := -indentStep }])

/-- A body within an expression, laid out. -/
def bodyDocs (isSingle : Bool) (statements : List Doc) : Doc :=
  .box { indent := indentStep }
    (.ofString "\x7b" ::
      (if isSingle then outdented indentStep (.space :: statements ++ [.space])
      else if statements.isEmpty then []
      else outdented indentStep (.space :: statements)) ++
      [.ofString "\x7d"])

/-- Whether statements are one expression without a semicolon. -/
def isSingleExpr (ss : List Statement) : Bool :=
  match ss with
  | [.expression _ false] => true
  | _ => false

mutual

/-- An expression, laid out. -/
def Expr.docs (e : Expr) : List Doc :=
  match e with
  | .literal l => [l.doc]
  | .path p => p.docs true
  | .reference mutable e =>
    .ofString "&" :: (if mutable then [.ofString "mut "] else []) ++ e.docs
  | .unary o e => .text [o] :: e.docs
  | .binary l o r =>
    [.box { filled := true, indent := indentStep }
      (.box { filled := true, indent := -indentStep } l.docs ::
        .space :: .ofString o :: .ofString " " :: r.docs)]
  | .enclosed e => .ofString "(" :: e.docs ++ [.ofString ")"]
  | .tuple es => tupleParens (exprDocs es)
  | .array es => arrayDocs (es.all Expr.isShort) (exprDocs es)
  | .repeated e n => .ofString "[" :: e.docs ++ .ofString "; " :: n.docs ++ [.ofString "]"]
  | .record p ms => memberDocs (p.docs true) (allMemberDocs ms)
  | .call f as =>
    let arguments := exprDocs as
    f.docs ++ .ofString "(" ::
      (if as.length = 1 ∧ as.all Expr.isBracketed then arguments.flatten
      else insideBox indentStep (listDocs 0 arguments)) ++ [.ofString ")"]
  | .closure ps ss =>
    [.box { filled := true }
      [closureDocs ps, .edge, bodyDocs (isSingleExpr ss) (statementDocs (isSingleExpr ss) ss)]]

/-- Expressions, laid out. -/
def exprDocs (es : List Expr) : List (List Doc) :=
  match es with
  | [] => []
  | e :: rest => e.docs :: exprDocs rest

/-- The value of a field, laid out. -/
def Member.docs (m : Member) : List Doc :=
  match m with
  | .short n => [n.doc]
  | .full n e => [n.doc, .ofString ": ", .box { filled := true } e.docs]

/-- The values of fields, laid out. -/
def allMemberDocs (ms : List Member) : List (List Doc) :=
  match ms with
  | [] => []
  | m :: rest => m.docs :: allMemberDocs rest

/-- A statement, laid out. Unless it shares its line with the braces around it, it ends the
line. -/
def Statement.docs (sharesLine : Bool) (s : Statement) : List Doc :=
  match s with
  | .binding p t v =>
    [.box { filled := true }
      (.ofString "let " :: p.docs ++
        (match t with
        | some t => .ofString ": " :: t.docs
        | none => []) ++
        (match v with
        | some e => .ofString " = " :: .edge :: e.docs
        | none => []) ++
        [.ofString ";"]),
      .lineEnd]
  | .declaration i => i.docs
  | .expression e ended =>
    .box { filled := true } (e.docs ++ if ended then [.ofString ";"] else []) ::
      if sharesLine then [] else [.lineEnd]
  | .empty => []

/-- Statements, laid out. -/
def statementDocs (sharesLine : Bool) (ss : List Statement) : List Doc :=
  match ss with
  | [] => []
  | s :: rest => s.docs sharesLine ++ statementDocs sharesLine rest

/-- A declaration, laid out. -/
def Item.docs (i : Item) : List Doc :=
  match i with
  | .mk as v kind => outerDocs as ++ kind.docs v.docs (innerDocs as)

/-- What a declaration declares, laid out, given its visibility and what stands at the start of
its body. -/
def ItemKind.docs (visibility inner : List Doc) (k : ItemKind) : List Doc :=
  match k with
  | .use rooted t =>
    visibility ++ .ofString "use " :: (if rooted then [.ofString "::"] else []) ++ t.docs ++
      [.ofString ";", .lineEnd]
  | .library n rename =>
    visibility ++ .ofString "extern crate " :: n.doc ::
      (match rename with
      | some m => [.ofString " as ", m.doc]
      | none => []) ++
      [.ofString ";", .lineEnd]
  | .record n g fs =>
    recordDocs (visibility ++ .ofString "struct " :: n.doc :: genericDocs g.parameters)
      g.conditions fs
  | .enumeration n g vs =>
    braced
      (visibility ++ .ofString "enum " :: n.doc :: genericDocs g.parameters ++
        bodyConditionDocs g.conditions)
      (commaLines (vs.map Variant.docs))
  | .constant n t e =>
    [.box {} (visibility ++ .ofString "const " :: n.doc :: .ofString ": " :: t.docs ++
      .ofString " = " :: .edge :: e.docs ++ [.ofString ";"]), .lineEnd]
  | .static mutable n t e =>
    [.box {} (visibility ++ .ofString (if mutable then "static mut " else "static ") :: n.doc ::
      .ofString ": " :: t.docs ++ .ofString " = " :: .edge :: e.docs ++ [.ofString ";"]),
      .lineEnd]
  | .outerModule n =>
    [.box { indent := indentStep } (visibility ++ [.ofString "mod ", n.doc, .ofString ";"]),
      .lineEnd]
  | .module n is =>
    braced (visibility ++ [.ofString "mod ", n.doc, .ofString " "]) (inner ++ itemDocs is)
  | .alias n g t =>
    [.box { indent := indentStep } (visibility ++ .ofString "type " :: n.doc ::
      genericDocs g.parameters ++ [.ofString " = ", .edge,
        .box { filled := true, indent := -indentStep } t.docs, .ofString ";"]), .lineEnd]
  | .trait n g bs =>
    braced
      (visibility ++ .ofString "trait " :: n.doc :: genericDocs g.parameters ++
        (if bs.isEmpty then [] else .ofString ": " :: separatedBy " + " (boundDocs bs)) ++
        bodyConditionDocs g.conditions)
      inner
  | .implementation g trait t =>
    braced
      (.box { filled := true, indent := -indentStep }
        (.box { indent := indentStep } (.ofString "impl" :: genericDocs g.parameters) ::
          .ofString " " ::
          (match trait with
          | some p => p.docs false ++ [.space, .ofString "for "]
          | none => []) ++
          t.docs) ::
        bodyConditionDocs g.conditions)
      inner
  | .function s ss =>
    braced (visibility ++ s.docs ++ bodyConditionDocs s.generics.conditions)
      (inner ++ statementDocs false ss)

/-- Declarations, laid out. -/
def itemDocs (is : List Item) : List Doc :=
  match is with
  | [] => []
  | i :: rest => i.docs ++ itemDocs rest

end

/-- A **file**, laid out. -/
def File.doc (f : File) : Doc :=
  .box {}
    ((match f.shebang with
      | some line => [.text line, .lineEnd]
      | none => []) ++
      innerDocs f.attributes ++ itemDocs f.items)

end Scaffold.Source
