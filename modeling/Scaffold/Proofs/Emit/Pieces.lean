import Scaffold.Proofs.Emit.Parse
import Scaffold.Proofs.Source.Piece

/-!
# The tree of generated source, laid out

The texts and gaps of the tree of generated source, as lexemes. They stand for the tokens that
generated source may be cut into, and no lexeme runs into the next, whichever gaps vanish.

## Main definitions

* `pieces` - the lexemes and gaps of the tree.

## Main results

* `atoms_doc` - they are the texts and gaps of the tree, laid out.
* `tokens_of_spells` - they stand for the tokens of generated source.
* `lexes_render` - the tree, laid out, is cut into these tokens.
-/

namespace Scaffold.Emit

open Handler (Descriptor)
open Source Source.Piece
open Layout (atomsAll)

/-! ### The pieces -/

/-- A text of one name. -/
def nameText (n : Name) : Piece :=
  .text [.word n]

/-- A text of one word. -/
def wordText (s : String) : Piece :=
  nameText (.ofString s)

/-- A text of one word and a blank. -/
def wordBlank (s : String) : Piece :=
  .text [.word (.ofString s), blank]

/-- A text of one mark, behind which no other mark follows. -/
def markText (c : Char) : Piece :=
  .text [.mark c false]

/-- A colon and a blank. -/
def colonBlank : Piece :=
  .text [.mark ':' false, blank]

/-- A mark between blanks. -/
def betweenBlanks (c : Char) : Piece :=
  .text [blank, .mark c false, blank]

/-- A text of one opening bracket. -/
def openingText (d : Delimiter) : Piece :=
  .text [.opening d]

/-- A text of one closing bracket. -/
def closingText (d : Delimiter) : Piece :=
  .text [.closing d]

/-- A gap without a comma. -/
def plainGap : Piece :=
  .gap false

/-- The attribute that allows types in lower case. -/
def allowancePieces : List Piece := [
  .text [.mark '#' true, .mark '!' false, .opening .bracket], wordText "allow",
  openingText .paren, plainGap, wordText "non_camel_case_types", plainGap, closingText .paren,
  closingText .bracket, plainGap]

/-- The path of the trait. -/
def pathPieces (steps : List Name) (name : Name) : List Piece :=
  steps.flatMap (fun n => [nameText n, .text [.mark ':' true, .mark ':' false]]) ++ [nameText name]

/-- A step of a path has colons behind it. -/
theorem pathPieces_cons (n : Name) (steps : List Name) (name : Name) :
    pathPieces (n :: steps) name =
      nameText n :: .text [.mark ':' true, .mark ':' false] :: pathPieces steps name :=
  rfl

/-- The import of the trait. -/
def importPieces (p : TraitPath) : List Piece :=
  wordBlank "use" :: pathPieces p.steps p.name ++ [markText ';', plainGap]

/-- The name of a field and a reference behind it. -/
def fieldPieces (name : String) : List Piece := [
  wordBlank "pub", wordText name, colonBlank, .text [.mark '&' true],
  .text [.lifetime (.ofString "static")], .text [blank]]

/-- The declaration of the type of the entries. -/
def handlerPieces (t : Name) : List Piece :=
  [wordBlank "pub", wordBlank "struct", wordText "Handler", .text [blank], openingText .brace,
    plainGap] ++
  fieldPieces "path" ++ [wordText "str", markText ',', plainGap] ++
  fieldPieces "http_method" ++ [wordText "str", markText ',', plainGap] ++
  fieldPieces "handler" ++ [openingText .paren, wordBlank "dyn", nameText t, betweenBlanks '+',
    wordText "Sync", closingText .paren, markText ',', plainGap] ++
  [closingText .brace, plainGap]

/-- The entry of a handler up to its last comma. -/
def entryFront (d : Descriptor) : List Piece := [
  wordText "Handler", .text [blank, .opening .brace], plainGap,
  wordText "path", colonBlank, .text [.quoted d.path.toList], markText ',', plainGap,
  wordText "http_method", colonBlank, .text [.quoted d.httpMethod.toList], markText ',', plainGap,
  wordText "handler", colonBlank, markText '&', nameText (typeOf d),
  .text [blank, .opening .brace], plainGap, closingText .brace]

/-- The entry of a handler. -/
def entryPieces (d : Descriptor) : List Piece :=
  entryFront d ++ .gap true :: [closingText .brace]

/-- The entries of the table. -/
def entriesPieces (handlers : List Descriptor) : List Piece :=
  match handlers with
  | [] => []
  | [d] => entryPieces d ++ .gap true :: []
  | d :: rest => entryPieces d ++ markText ',' :: plainGap :: entriesPieces rest

/-- The table up to its brackets. -/
def tableFront : List Piece := [
  wordBlank "pub", wordBlank "static", wordText "HANDLERS", colonBlank, markText '&',
  openingText .bracket, wordText "Handler", closingText .bracket, betweenBlanks '=', markText '&']

/-- The table in its brackets. -/
def tableInside (handlers : List Descriptor) : List Piece :=
  if handlers.isEmpty then [.text [.opening .bracket, .closing .bracket]]
  else openingText .bracket :: plainGap :: entriesPieces handlers ++ [closingText .bracket]

/-- A table of some entries has them between brackets. -/
theorem tableInside_cons (d : Descriptor) (rest : List Descriptor) :
    tableInside (d :: rest) = [openingText .bracket, plainGap] ++
      (entriesPieces (d :: rest) ++ [closingText .bracket]) :=
  rfl

/-- The table. -/
def tablePieces (handlers : List Descriptor) : List Piece :=
  tableFront ++ tableInside handlers ++ [markText ';', plainGap]

/-- The assertions up to the comma behind the parameter of the asserting function. -/
def assertionsFront (t : Name) : List Piece := [
  wordBlank "const", wordText "_", colonBlank, wordText "fn", openingText .paren,
  closingText .paren, betweenBlanks '=', .text [.mark '|' true], markText '|', plainGap,
  openingText .brace, plainGap, wordBlank "fn", wordText "assert_handler", markText '<', plainGap,
  wordText "T", colonBlank, nameText t, plainGap, .text [.mark '+' false, blank],
  wordText "Sync"]

/-- The asserting function from behind its parameter. -/
def assertingEnd : List Piece := [
  markText '>', openingText .paren, closingText .paren, .text [blank], openingText .brace,
  closingText .brace, plainGap]

/-- The assertion of a handler. -/
def assertionPieces (d : Descriptor) : List Piece :=
  [wordText "assert_handler", .text [.mark ':' true, .mark ':' true], markText '<', plainGap,
    nameText (typeOf d)] ++ .gap true ::
  [markText '>', openingText .paren, closingText .paren, markText ';', plainGap]

/-- The assertions. -/
def assertionsPieces (t : Name) (handlers : List Descriptor) : List Piece :=
  assertionsFront t ++ .gap true :: (assertingEnd ++ handlers.flatMap assertionPieces ++
    [closingText .brace, markText ';', plainGap])

/-- The declaration of the type of a handler. -/
def declarationPieces (d : Descriptor) : List Piece := [
  wordBlank "pub", wordBlank "struct", nameText (typeOf d), .text [blank], openingText .brace,
  closingText .brace, plainGap]

/-- The **lexemes and gaps of generated source**. -/
def pieces (p : TraitPath) (handlers : List Descriptor) : List Piece :=
  allowancePieces ++ (importPieces p ++ (handlerPieces p.name ++ (tablePieces handlers ++
    (assertionsPieces p.name handlers ++ handlers.flatMap declarationPieces))))

/-! ### The texts and gaps of the tree -/

/-- A gap at the end of documents is moved without a change to what is kept of it. -/
theorem atomsAll_outdented (step : Int) (docs : List Layout.Doc) :
    atomsAll (Layout.outdented step docs) = atomsAll docs := by
  fun_induction Layout.outdented step docs with
  | case1 => rfl
  | case2 g => rfl
  | case3 d rest _ ih => rw [Layout.atomsAll_cons, Layout.atomsAll_cons, ih]

/-- The text of one name. -/
theorem atom_nameText (n : Name) : (nameText n).atom = .text n.spelling := by
  rw [nameText, atom, List.flatMap_singleton, Lexeme.text]

/-- The text of one quotation. -/
theorem atom_quoted (value : List Char) :
    atom (.text [.quoted value]) = .text (Text.quoteChars value) := by
  rw [atom, List.flatMap_singleton, Lexeme.text]

/-- The attribute, laid out. -/
theorem atoms_allowance : atomsAll (innerDocs [allowance]) = allowancePieces.map atom := by
  rfl

/-- The path of the trait, laid out. -/
theorem atoms_importTree (steps : List Name) (name : Name) :
    atomsAll (importTree steps name).docs = (pathPieces steps name).map atom := by
  induction steps with
  | nil =>
      rw [pathPieces, List.flatMap_nil, List.nil_append, List.map_singleton, atom_nameText]
      rfl
  | cons n steps ih =>
      rw [pathPieces_cons, List.map_cons, List.map_cons, ← ih, atom_nameText, importTree, UseTree.docs]
      rfl

/-- The import of the trait, laid out. -/
theorem atoms_import (p : TraitPath) :
    atomsAll (importItem p).docs = (importPieces p).map atom := by
  rw [importPieces, List.map_append, List.map_cons, ← atoms_importTree, importItem, Item.docs,
    ItemKind.docs]
  simp only [Layout.atomsAll_append, Layout.atomsAll_cons]
  rfl

/-- The type of the entries, laid out. -/
theorem atoms_handler (t : Name) : atomsAll (handlerItem t).docs = (handlerPieces t).map atom := by
  simp only [handlerPieces, List.map_append, List.map_cons, atom_nameText]
  rfl

/-- The entry of a handler, laid out. -/
theorem atoms_entry (d : Descriptor) :
    atomsAll (entryTree d).docs = (entryPieces d).map atom := by
  simp only [entryPieces, entryFront, List.map_append, List.map_cons, atom_nameText, atom_quoted]
  rfl

/-- The entries of the table, laid out. -/
theorem atoms_entries (handlers : List Descriptor) :
    atomsAll (listDocs 0 (exprDocs (handlers.map entryTree))) =
      (entriesPieces handlers).map atom := by
  fun_induction entriesPieces handlers with
  | case1 =>
      rfl
  | case2 d =>
      rw [List.map_append, ← atoms_entry]
      simp only [List.map_cons, List.map_nil, exprDocs, listDocs, Layout.atomsAll_append]
      rfl
  | case3 d rest hrest ih =>
      obtain ⟨e, more, rfl⟩ := List.exists_cons_of_ne_nil hrest
      have hmap : (markText ',' :: plainGap :: entriesPieces (e :: more)).map atom =
          (markText ',').atom :: plainGap.atom :: (entriesPieces (e :: more)).map atom := rfl
      rw [List.map_append, ← atoms_entry, hmap, ← ih]
      simp only [List.map_cons, exprDocs, listDocs, Layout.atomsAll_append, Layout.atomsAll_cons]
      rfl

/-- The table in its brackets, laid out. -/
theorem atoms_array (handlers : List Descriptor) :
    atomsAll (Expr.array (handlers.map entryTree)).docs = (tableInside handlers).map atom := by
  cases handlers with
  | nil =>
      rfl
  | cons d rest =>
      have hinside : tableInside (d :: rest) =
          openingText .bracket :: plainGap :: entriesPieces (d :: rest) ++
            [closingText .bracket] := rfl
      have hdocs : (Expr.array ((d :: rest).map entryTree)).docs =
          bracketed "[" "]" (exprDocs ((d :: rest).map entryTree)) := rfl
      have hbox : insideBox indentStep (listDocs 0 (exprDocs ((d :: rest).map entryTree))) =
          [.box { indent := indentStep }
            (.softEnd :: listDocs 0 (exprDocs ((d :: rest).map entryTree)))] := by
        cases rest <;> rfl
      have hmap : (openingText .bracket :: plainGap :: entriesPieces (d :: rest)).map atom =
          (openingText .bracket).atom :: plainGap.atom :: (entriesPieces (d :: rest)).map atom := rfl
      rw [hinside, hdocs, bracketed, hbox, List.map_append, hmap, ← atoms_entries]
      rfl

/-- The table, laid out. -/
theorem atoms_table (handlers : List Descriptor) :
    atomsAll (tableItem handlers).docs = (tablePieces handlers).map atom := by
  have hitem : atomsAll (tableItem handlers).docs =
      tableFront.map atom ++ (atomsAll (Expr.array (handlers.map entryTree)).docs ++
        [markText ';', plainGap].map atom) := by
    rw [tableItem, Item.docs, ItemKind.docs]
    simp only [Layout.atomsAll_append, Layout.atomsAll_cons, Layout.Doc.atoms, Expr.docs,
      List.append_assoc]
    rfl
  rw [hitem, atoms_array, tablePieces, List.map_append, List.map_append, List.append_assoc]

/-- The assertion of a handler, laid out. -/
theorem atoms_assertion (d : Descriptor) :
    atomsAll ((assertionTree d).docs false) = (assertionPieces d).map atom := by
  simp only [assertionPieces, List.map_append, List.map_cons, atom_nameText]
  rfl

/-- The assertions of all handlers, laid out. -/
theorem atoms_assertions (handlers : List Descriptor) :
    atomsAll (statementDocs false (handlers.map assertionTree)) =
      (handlers.flatMap assertionPieces).map atom := by
  induction handlers with
  | nil =>
      rfl
  | cons d handlers ih =>
      rw [List.flatMap_cons, List.map_append, ← ih, ← atoms_assertion, List.map_cons,
        statementDocs, Layout.atomsAll_append]

/-- The asserting function, laid out. -/
theorem atoms_asserting (t : Name) :
    atomsAll (assertingItem t).docs =
      ((assertionsFront t).drop 12 ++ .gap true :: assertingEnd).map atom := by
  simp only [assertionsFront, List.drop, List.map_append, List.map_cons, atom_nameText]
  rfl

/-- A body of statements, laid out. -/
theorem atoms_body (statements : List Layout.Doc) (h : statements.isEmpty = false) :
    (bodyDocs false statements).atoms = (openingText .brace).atom :: plainGap.atom ::
      (atomsAll statements ++ [(closingText .brace).atom]) := by
  rw [bodyDocs, h]
  simp only [Layout.Doc.atoms, Layout.atomsAll_cons, Layout.atomsAll_append, if_false,
    Bool.false_eq_true, atomsAll_outdented]
  rfl

/-- The constant with the assertions, laid out. -/
theorem atoms_assertionsItem (t : Name) (handlers : List Descriptor) :
    atomsAll (assertionsItem t handlers).docs = (assertionsPieces t handlers).map atom := by
  have hstatements : atomsAll (statementDocs false
      (.declaration (assertingItem t) :: handlers.map assertionTree)) =
      ((assertionsFront t).drop 12 ++ .gap true :: assertingEnd).map atom ++
        (handlers.flatMap assertionPieces).map atom := by
    rw [statementDocs, Layout.atomsAll_append, atoms_assertions, ← atoms_asserting]
    rfl
  have hitem : atomsAll (assertionsItem t handlers).docs =
      ((assertionsFront t).take 10).map atom ++ ((bodyDocs false (statementDocs false
        (.declaration (assertingItem t) :: handlers.map assertionTree))).atoms ++
        [markText ';', plainGap].map atom) := by
    rw [assertionsItem, Item.docs, ItemKind.docs]
    simp only [Layout.atomsAll_append, Layout.atomsAll_cons, Layout.Doc.atoms, Expr.docs,
      List.append_assoc]
    rfl
  rw [hitem, atoms_body _ rfl, hstatements, assertionsPieces]
  simp only [List.map_append, List.map_cons, List.append_assoc, List.cons_append,
    List.nil_append, assertionsFront, List.take, List.drop, List.map_nil]

/-- The declarations of all types, laid out. -/
theorem atoms_declarations (handlers : List Descriptor) :
    atomsAll (itemDocs (handlers.map declarationItem)) =
      (handlers.flatMap declarationPieces).map atom := by
  induction handlers with
  | nil =>
      rfl
  | cons d handlers ih =>
      have hitem : atomsAll (declarationItem d).docs = (declarationPieces d).map atom := by
        simp only [declarationPieces, List.map_cons, atom_nameText]
        rfl
      rw [List.flatMap_cons, List.map_append, ← ih, ← hitem, List.map_cons, itemDocs,
        Layout.atomsAll_append]

/-- The pieces are the **texts and gaps of the tree**, laid out. -/
theorem atoms_doc (p : TraitPath) (handlers : List Descriptor) :
    (tree p handlers).doc.atoms = (pieces p handlers).map atom := by
  have hdoc : (tree p handlers).doc.atoms =
      atomsAll (innerDocs [allowance] ++ itemDocs (tree p handlers).items) := rfl
  rw [hdoc, pieces, tree]
  simp only [itemDocs, Layout.atomsAll_append, List.map_append, atoms_allowance, atoms_import,
    atoms_handler, atoms_table, atoms_assertionsItem, atoms_declarations]

/-! ### The tokens that the pieces stand for -/

/-- A gap that may put a comma. -/
theorem spells_comma {ps : List Piece} {ts : List Token} (h : Spells (.gap true :: ps) ts) :
    ∃ present more, Spells ps more ∧ ts = commaIf present ++ more := by
  cases h with
  | gap h => exact ⟨false, _, h, rfl⟩
  | comma h => exact ⟨true, _, h, rfl⟩

/-- The tokens of the path of the trait. -/
theorem tokens_pathPieces (steps : List Name) (name : Name) :
    (pathPieces steps name).flatMap tokens = pathTokens steps name := by
  induction steps with
  | nil =>
      rfl
  | cons n steps ih =>
      rw [pathPieces_cons, List.flatMap_cons, List.flatMap_cons, ih]
      rfl

/-- No comma is put into the path of the trait. -/
theorem isPlain_pathPieces (steps : List Name) (name : Name) :
    (pathPieces steps name).all isPlain = true := by
  induction steps with
  | nil =>
      rfl
  | cons n steps ih =>
      exact ih

/-- What the import stands for. -/
theorem spells_import {p : TraitPath} {ts : List Token} (h : Spells (importPieces p) ts) :
    ts = importTokens p := by
  have hplain : (importPieces p).all isPlain = true := by
    rw [importPieces, List.all_append, List.all_cons, isPlain_pathPieces]
    rfl
  rw [h.eq_of_isPlain hplain, importPieces, List.flatMap_append, List.flatMap_cons,
    tokens_pathPieces]
  rfl

/-- What an entry stands for. -/
theorem spells_entry {d : Descriptor} {ps : List Piece} {ts : List Token}
    (h : Spells (entryPieces d ++ ps) ts) :
    ∃ inner more, Spells ps more ∧ ts = entryTokens d inner ++ more := by
  rw [entryPieces, List.append_assoc] at h
  obtain ⟨_, hcomma, rfl⟩ := h.plain_inv rfl
  obtain ⟨inner, _, hclosing, rfl⟩ := spells_comma hcomma
  have hclosing : Spells ([closingText .brace] ++ ps) _ := hclosing
  obtain ⟨more, hmore, rfl⟩ := hclosing.plain_inv rfl
  refine ⟨inner, more, hmore, ?_⟩
  rw [entryTokens, List.append_assoc, List.append_assoc]
  rfl

/-- What the entries of the table stand for. -/
theorem spells_entries {handlers : List Descriptor} {ts : List Token}
    (h : Spells (entriesPieces handlers) ts) : Entries handlers ts := by
  fun_induction entriesPieces handlers generalizing ts with
  | case1 =>
      cases h
      exact .nil
  | case2 d =>
      obtain ⟨inner, _, hcomma, rfl⟩ := spells_entry h
      obtain ⟨outer, _, hnil, rfl⟩ := spells_comma hcomma
      cases hnil
      rw [List.append_nil]
      exact .last inner outer
  | case3 d rest hrest ih =>
      obtain ⟨e, more, rfl⟩ := List.exists_cons_of_ne_nil hrest
      obtain ⟨inner, _, hcomma, rfl⟩ := spells_entry h
      have hcomma : Spells ([markText ',', plainGap] ++ entriesPieces (e :: more)) _ := hcomma
      obtain ⟨ts, hts, rfl⟩ := hcomma.plain_inv rfl
      exact .cons inner (ih hts)

/-- What the table stands for. -/
theorem spells_table {handlers : List Descriptor} {ts : List Token}
    (h : Spells (tablePieces handlers) ts) :
    ∃ entries, Entries handlers entries ∧ ts = tableHead ++ entries ++ tableEnd := by
  rw [tablePieces, List.append_assoc] at h
  obtain ⟨_, hback, rfl⟩ := h.plain_inv rfl
  obtain ⟨inside, _, hinside, hend, rfl⟩ := hback.append_inv
  rw [hend.eq_of_isPlain rfl]
  cases handlers with
  | nil =>
      rw [hinside.eq_of_isPlain rfl]
      exact ⟨[], .nil, rfl⟩
  | cons d rest =>
      rw [tableInside_cons] at hinside
      obtain ⟨_, hinner, rfl⟩ := hinside.plain_inv rfl
      obtain ⟨entries, _, hentries, hclosing, rfl⟩ := hinner.append_inv
      rw [hclosing.eq_of_isPlain rfl]
      refine ⟨entries, spells_entries hentries, ?_⟩
      simp only [tableEnd, List.append_assoc]
      rfl

/-- What the assertions stand for. -/
theorem spells_assertions {handlers : List Descriptor} {ts : List Token}
    (h : Spells (handlers.flatMap assertionPieces) ts) : Assertions handlers ts := by
  induction handlers generalizing ts with
  | nil =>
      cases h
      exact .nil
  | cons d handlers ih =>
      rw [List.flatMap_cons, assertionPieces, List.append_assoc] at h
      obtain ⟨_, hcomma, rfl⟩ := h.plain_inv rfl
      obtain ⟨comma, _, hback, rfl⟩ := spells_comma hcomma
      have hback : Spells ([markText '>', openingText .paren, closingText .paren, markText ';',
        plainGap] ++ handlers.flatMap assertionPieces) _ := hback
      obtain ⟨more, hmore, rfl⟩ := hback.plain_inv rfl
      have htokens := Assertions.cons comma (d := d) (ih hmore)
      rw [assertionTokens, List.append_assoc, List.append_assoc] at htokens
      exact htokens

/-- What the constant with the assertions stands for. -/
theorem spells_assertionsItem {t : Name} {handlers : List Descriptor} {ts : List Token}
    (h : Spells (assertionsPieces t handlers) ts) :
    ∃ comma assertions, Assertions handlers assertions ∧
      ts = assertionsHead t comma ++ assertions ++ assertionsEnd := by
  rw [assertionsPieces] at h
  obtain ⟨_, hcomma, rfl⟩ := h.plain_inv rfl
  obtain ⟨comma, _, hback, rfl⟩ := spells_comma hcomma
  rw [List.append_assoc] at hback
  obtain ⟨_, hrest, rfl⟩ := hback.plain_inv rfl
  obtain ⟨assertions, _, hassertions, hend, rfl⟩ := hrest.append_inv
  rw [hend.eq_of_isPlain rfl]
  refine ⟨comma, assertions, spells_assertions hassertions, ?_⟩
  simp only [assertionsHead, List.append_assoc]
  rfl

/-- What the declarations stand for. -/
theorem spells_declarations {handlers : List Descriptor} {ts : List Token}
    (h : Spells (handlers.flatMap declarationPieces) ts) :
    ts = handlers.flatMap declarationTokens := by
  induction handlers generalizing ts with
  | nil =>
      cases h
      rfl
  | cons d handlers ih =>
      rw [List.flatMap_cons] at h
      obtain ⟨more, hmore, rfl⟩ := h.plain_inv rfl
      rw [List.flatMap_cons, ih hmore]
      rfl

/-- The pieces stand for the **tokens of generated source**. -/
theorem tokens_of_spells {p : TraitPath} {handlers : List Descriptor} {ts : List Token}
    (h : Spells (pieces p handlers) ts) : Tokens p handlers ts := by
  obtain ⟨_, hall, rfl⟩ := h.plain_inv rfl
  obtain ⟨_, _, himport, hrest, rfl⟩ := hall.append_inv
  obtain ⟨_, hitems, rfl⟩ := hrest.plain_inv rfl
  obtain ⟨_, _, htable, hlast, rfl⟩ := hitems.append_inv
  obtain ⟨_, _, hasserting, hdeclarations, rfl⟩ := hlast.append_inv
  obtain ⟨entries, hentries, rfl⟩ := spells_table htable
  obtain ⟨comma, assertions, hassertions, rfl⟩ := spells_assertionsItem hasserting
  rw [spells_import himport, spells_declarations hdeclarations]
  have htokens := Tokens.mk comma hentries hassertions (p := p)
  rw [List.append_assoc, List.append_assoc, List.append_assoc, List.append_assoc] at htokens
  exact htokens

/-! ### Neighbours -/

/-- Pieces after others, from the last lexeme of these. -/
theorem joined_of {before : Lexeme} {ps qs : List Piece} (hps : joined before ps = true)
    (hqs : joined (ending before ps) qs = true) : joined before (ps ++ qs) = true := by
  rw [joined_append, hps, hqs]
  rfl

/-- A name stands behind a blank or colons, and in front of colons. -/
theorem joined_pathPieces (before : Lexeme) (steps : List Name) (name : Name)
    (hbefore : ∀ n, before.precedes (.word n) = true) :
    joined before (pathPieces steps name) = true ∧
      ending before (pathPieces steps name) = .word name := by
  induction steps generalizing before with
  | nil =>
      refine ⟨?_, rfl⟩
      change (before.precedes (.word name) && true && true) = true
      rw [hbefore]
      rfl
  | cons n steps ih =>
      obtain ⟨hrest, hending⟩ := ih (.mark ':' false) fun _ => rfl
      refine ⟨?_, hending⟩
      change (before.precedes (.word n) && true && joined (.mark ':' false)
        (pathPieces steps name)) = true
      rw [hbefore, hrest]
      rfl

/-- The import ends behind its semicolon. -/
theorem joined_import (p : TraitPath) :
    joined (.closing .bracket) (importPieces p) = true ∧
      ending (.closing .bracket) (importPieces p) = .mark ';' false := by
  obtain ⟨hpath, hending⟩ := joined_pathPieces blank p.steps p.name fun _ => rfl
  constructor
  · refine @joined_of _ (wordBlank "use" :: pathPieces p.steps p.name) _ hpath ?_
    change joined (ending blank (pathPieces p.steps p.name)) _ = true
    rw [hending]
    rfl
  · exact ending_append _ (wordBlank "use" :: pathPieces p.steps p.name) _

/-- The entries of the table stand behind a bracket or a comma, and end with a bracket. -/
theorem joined_entries (before : Lexeme) (handlers : List Descriptor)
    (hbefore : ∀ d, joined before (entryPieces d) = true) :
    joined before (entriesPieces handlers) = true ∧
      (handlers ≠ [] → ending before (entriesPieces handlers) = .closing .brace) := by
  fun_induction entriesPieces handlers generalizing before with
  | case1 =>
      exact ⟨rfl, fun h => absurd rfl h⟩
  | case2 d =>
      exact ⟨joined_of (hbefore d) rfl, fun _ => ending_append _ (entryPieces d) _⟩
  | case3 d rest hrest ih =>
      obtain ⟨hjoined, hending⟩ := ih comma fun _ => rfl
      refine ⟨joined_of (hbefore d) hjoined, fun _ => ?_⟩
      rw [ending_append]
      exact hending hrest

/-- The table ends behind its semicolon. -/
theorem joined_table (handlers : List Descriptor) :
    joined (.closing .brace) (tablePieces handlers) = true ∧
      ending (.closing .brace) (tablePieces handlers) = .mark ';' false := by
  constructor
  · rw [tablePieces, List.append_assoc]
    refine joined_of rfl ?_
    cases handlers with
    | nil =>
        rfl
    | cons d rest =>
        obtain ⟨hjoined, hending⟩ :=
          joined_entries (.opening .bracket) (d :: rest) fun _ => rfl
        rw [tableInside_cons, List.append_assoc, List.append_assoc]
        refine joined_of rfl (joined_of hjoined ?_)
        change joined (ending (.opening .bracket) _) _ = true
        rw [hending (List.cons_ne_nil d rest)]
        rfl
  · exact ending_append _ (tableFront ++ tableInside handlers) _

/-- **Groups of pieces that all end with one lexeme**, and what follows them. -/
theorem joined_flatMap {α : Type} {before : Lexeme} {f : α → List Piece} {qs : List Piece}
    (last : Lexeme) (as : List α) (hending : ∀ b a, ending b (f a) = last)
    (hbefore : ∀ a, joined before (f a) = true) (hlast : ∀ a, joined last (f a) = true)
    (hqs : joined before qs = true) (hqs' : joined last qs = true) :
    joined before (as.flatMap f ++ qs) = true := by
  induction as generalizing before with
  | nil =>
      exact hqs
  | cons a as ih =>
      rw [List.flatMap_cons, List.append_assoc]
      refine joined_of (hbefore a) ?_
      rw [hending]
      exact ih hlast hqs'

/-- The last lexeme of such groups. -/
theorem ending_flatMap {α : Type} {last : Lexeme} {f : α → List Piece} (before : Lexeme) (as : List α)
    (hending : ∀ b a, ending b (f a) = last) :
    ending before (as.flatMap f) = before ∨ ending before (as.flatMap f) = last := by
  induction as generalizing before with
  | nil =>
      exact .inl rfl
  | cons a as ih =>
      rw [List.flatMap_cons, ending_append, hending]
      rcases ih last with h | h
      · exact .inr h
      · exact .inr h

/-- The assertions end behind their semicolon. -/
theorem joined_assertionsItem (t : Name) (handlers : List Descriptor) :
    joined (.mark ';' false) (assertionsPieces t handlers) = true ∧
      ending (.mark ';' false) (assertionsPieces t handlers) = .mark ';' false := by
  have hassertions : joined (.closing .brace) (handlers.flatMap assertionPieces ++
      [closingText .brace, markText ';', plainGap]) = true :=
    joined_flatMap (.mark ';' false) handlers (fun _ _ => rfl) (fun _ => rfl)
      (fun _ => rfl) rfl rfl
  have hsplit : assertionsPieces t handlers = (assertionsFront t ++ .gap true :: assertingEnd) ++
      (handlers.flatMap assertionPieces ++ [closingText .brace, markText ';', plainGap]) := by
    simp only [assertionsPieces, List.append_assoc, List.cons_append]
  rw [hsplit]
  refine ⟨joined_of rfl hassertions, ?_⟩
  rw [ending_append, ending_append]
  rfl

/-- **No lexeme of generated source runs into the next**. -/
theorem joined_pieces (p : TraitPath) (handlers : List Descriptor) :
    joined blank (pieces p handlers) = true ∧
      (ending blank (pieces p handlers)).isLast = true := by
  obtain ⟨himport, himport'⟩ := joined_import p
  obtain ⟨htable, htable'⟩ := joined_table handlers
  obtain ⟨hasserting, hasserting'⟩ := joined_assertionsItem p.name handlers
  have hending (b : Lexeme) (d : Descriptor) : ending b (declarationPieces d) = .closing .brace :=
    rfl
  have hdeclarations := @joined_flatMap _ (.mark ';' false) _ [] _ handlers hending
    (fun _ => rfl) (fun _ => rfl) rfl rfl
  rw [List.append_nil] at hdeclarations
  have hallowance : ending blank allowancePieces = .closing .bracket := rfl
  have hhandler : ending (.mark ';' false) (handlerPieces p.name) = .closing .brace := rfl
  constructor
  · refine joined_of rfl (joined_of himport ?_)
    rw [hallowance, himport']
    refine joined_of rfl (joined_of htable ?_)
    rw [hhandler, htable']
    refine joined_of hasserting ?_
    rw [hasserting']
    exact hdeclarations
  · rw [pieces, ending_append, ending_append, ending_append, ending_append, ending_append,
      hallowance, himport', hhandler, htable', hasserting']
    rcases ending_flatMap (.mark ';' false) handlers hending with h | h
    · rw [h]
      rfl
    · rw [h]
      rfl

/-! ### Soundness -/

/-- The names of the path of the trait are spelled as names. -/
theorem isSound_pathPieces {steps : List Name} {name : Name} (hsteps : steps.all isStep = true)
    (hname : isIdentifier name = true) : (pathPieces steps name).all isSound = true := by
  induction steps with
  | nil =>
      change (name.isSpelled && true && true) = true
      rw [(isIdentifier_inv hname).1]
      rfl
  | cons n steps ih =>
      rw [List.all_cons, Bool.and_eq_true] at hsteps
      have hn : n.isSpelled = true := (Bool.and_eq_true_iff.1 hsteps.1).1
      change ((n.isSpelled && true) && (true && (pathPieces steps name).all isSound)) = true
      rw [hn, ih hsteps.2]
      rfl

/-- The lexemes of an entry are what they claim to be. -/
theorem isSound_entry {d : Descriptor} (h : isIdentifier (typeOf d) = true) :
    (entryPieces d).all isSound = true := by
  simp only [entryPieces, entryFront, List.all_append, List.all_cons, nameText, isSound,
    Lexeme.isSound, (isIdentifier_inv h).1]
  rfl

/-- The lexemes of the entries are what they claim to be. -/
theorem isSound_entries {handlers : List Descriptor}
    (h : ∀ d ∈ handlers, isIdentifier (typeOf d) = true) :
    (entriesPieces handlers).all isSound = true := by
  fun_induction entriesPieces handlers with
  | case1 =>
      rfl
  | case2 d =>
      rw [List.all_append, isSound_entry (h d List.mem_cons_self)]
      rfl
  | case3 d rest _ ih =>
      rw [List.all_append, isSound_entry (h d List.mem_cons_self), List.all_cons, List.all_cons,
        ih fun d hd => h d (List.mem_cons_of_mem _ hd)]
      rfl

/-- The lexemes of the import are what they claim to be. -/
theorem isSound_import (p : TraitPath) : (importPieces p).all isSound = true := by
  rw [importPieces, List.all_append, List.all_cons, isSound_pathPieces p.areSteps p.isNamed]
  rfl

/-- So are those of the type of the entries. -/
theorem isSound_handler {t : Name} (h : isIdentifier t = true) :
    (handlerPieces t).all isSound = true := by
  simp only [handlerPieces, List.all_append, List.all_cons, nameText, isSound, Lexeme.isSound,
    (isIdentifier_inv h).1]
  rfl

/-- So are those of the table. -/
theorem isSound_table {handlers : List Descriptor}
    (h : ∀ d ∈ handlers, isIdentifier (typeOf d) = true) :
    (tablePieces handlers).all isSound = true := by
  cases handlers with
  | nil =>
      rfl
  | cons d rest =>
      rw [tablePieces, tableInside_cons, List.all_append, List.all_append, List.all_append,
        List.all_append, isSound_entries h]
      rfl

/-- So are those of the assertions. -/
theorem isSound_assertionsItem {t : Name} {handlers : List Descriptor}
    (ht : isIdentifier t = true) (h : ∀ d ∈ handlers, isIdentifier (typeOf d) = true) :
    (assertionsPieces t handlers).all isSound = true := by
  have hassertions : (handlers.flatMap assertionPieces).all isSound = true := by
    rw [List.all_flatMap, List.all_eq_true]
    intro d hd
    simp only [assertionPieces, List.all_append, List.all_cons, nameText, isSound,
      Lexeme.isSound, (isIdentifier_inv (h d hd)).1]
    rfl
  rw [assertionsPieces, List.all_append, List.all_cons, List.all_append, List.all_append,
    hassertions]
  simp only [assertionsFront, List.all_cons, nameText, isSound, Lexeme.isSound,
    (isIdentifier_inv ht).1]
  rfl

/-- So are those of the declarations. -/
theorem isSound_declarations {handlers : List Descriptor}
    (h : ∀ d ∈ handlers, isIdentifier (typeOf d) = true) :
    (handlers.flatMap declarationPieces).all isSound = true := by
  rw [List.all_flatMap, List.all_eq_true]
  intro d hd
  simp only [declarationPieces, List.all_cons, nameText, isSound, Lexeme.isSound,
    (isIdentifier_inv (h d hd)).1]
  rfl

/-- The **lexemes of generated source are what they claim to be**. -/
theorem isSound_pieces {p : TraitPath} {handlers : List Descriptor}
    (h : ∀ d ∈ handlers, isIdentifier (typeOf d) = true) :
    (pieces p handlers).all isSound = true := by
  rw [pieces, List.all_append, List.all_append, List.all_append, List.all_append, List.all_append,
    isSound_import, isSound_handler p.isNamed, isSound_table h, isSound_assertionsItem p.isNamed h,
    isSound_declarations h]
  rfl

/-- The tree of generated source, **laid out, is cut into its tokens**. -/
theorem lexes_render {p : TraitPath} {handlers : List Descriptor}
    (h : ∀ d ∈ handlers, isIdentifier (typeOf d) = true) :
    ∃ ts, Tokens p handlers ts ∧ Lexes (Layout.render (tree p handlers).doc) ts := by
  obtain ⟨k, hprints⟩ := Layout.render_prints (tree p handlers).doc
  rw [atoms_doc] at hprints
  obtain ⟨hjoined, hlast⟩ := joined_pieces p handlers
  obtain ⟨ts, hspells, hlexes, -⟩ :=
    lexes_of_prints (isSound_pieces h) hjoined hlast nofun hprints
  exact ⟨ts, tokens_of_spells hspells, hlexes⟩

end Scaffold.Emit
