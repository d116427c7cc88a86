import Scaffold.Proofs.Emit.Pieces
import Scaffold.Proofs.Text.Blank

/-!
# The source before it is formatted

What the template gives is cut into the tokens of generated source, once its first line, the
mark of a generated file, is split off.

## Main definitions

* `templatePieces` - the lexemes of the template, filled in.

## Main results

* `lexes_body` - the template, filled in, is cut into the tokens of generated source.
* `toList_render` - the mark, an empty line and the rest of the source.
-/

namespace Scaffold.Emit

open Handler (Descriptor)
open Source Source.Piece

/-! ### The lexemes of the template -/

/-- The characters between two lexemes. -/
def blanks (s : String) : List Lexeme :=
  s.toList.map .blank

/-- A word of the template. -/
def wordLexeme (s : String) : Lexeme :=
  .word (.ofString s)

/-- A mark of the template, behind which no other mark follows. -/
def markLexeme (c : Char) : Lexeme :=
  .mark c false

/-- The lexemes up to the path of the trait. -/
def allowanceText : List Lexeme :=
  [.mark '#' true, markLexeme '!', .opening .bracket, wordLexeme "allow", .opening .paren,
    wordLexeme "non_camel_case_types", .closing .paren, .closing .bracket] ++ blanks "\n\n" ++
  [wordLexeme "use", blank]

/-- The beginning of a field of the type of the entries. -/
def fieldText (name : String) : List Lexeme :=
  blanks "    " ++ [wordLexeme "pub", blank, wordLexeme name, markLexeme ':', blank, .mark '&' true,
    .lifetime (.ofString "static"), blank]

/-- The lexemes from behind the path of the trait to the entries. -/
def headText (t : Name) : List Lexeme :=
  markLexeme ';' :: blanks "\n\n" ++
  [wordLexeme "pub", blank, wordLexeme "struct", blank, wordLexeme "Handler", blank,
    .opening .brace] ++ blanks "\n" ++
  fieldText "path" ++ [wordLexeme "str", markLexeme ','] ++ blanks "\n" ++
  fieldText "http_method" ++ [wordLexeme "str", markLexeme ','] ++ blanks "\n" ++
  fieldText "handler" ++ [.opening .paren, wordLexeme "dyn", blank, .word t, blank, markLexeme '+',
    blank, wordLexeme "Sync", .closing .paren, markLexeme ','] ++ blanks "\n" ++
  .closing .brace :: blanks "\n\n" ++
  [wordLexeme "pub", blank, wordLexeme "static", blank, wordLexeme "HANDLERS", markLexeme ':',
    blank, markLexeme '&', .opening .bracket, wordLexeme "Handler", .closing .bracket, blank,
    markLexeme '=', blank, markLexeme '&', .opening .bracket]

/-- The lexemes of the entry of a handler. -/
def entryText (d : Descriptor) : List Lexeme :=
  blanks "\n    " ++ [wordLexeme "Handler", blank, .opening .brace] ++
  blanks "\n        " ++ [wordLexeme "path", markLexeme ':', blank, .quoted d.path.toList,
    markLexeme ','] ++
  blanks "\n        " ++ [wordLexeme "http_method", markLexeme ':', blank,
    .quoted d.httpMethod.toList, markLexeme ','] ++
  blanks "\n        " ++ [wordLexeme "handler", markLexeme ':', blank, markLexeme '&',
    .word (typeOf d), blank, .opening .brace, .closing .brace, markLexeme ','] ++
  blanks "\n    " ++ [.closing .brace, markLexeme ',']

/-- The lexemes between the entries and the assertions. -/
def middleText (t : Name) : List Lexeme :=
  blanks "\n" ++ [.closing .bracket, markLexeme ';'] ++ blanks "\n\n" ++
  [wordLexeme "const", blank, wordLexeme "_", markLexeme ':', blank, wordLexeme "fn",
    .opening .paren, .closing .paren, blank, markLexeme '=', blank, .mark '|' true, markLexeme '|',
    blank, .opening .brace] ++ blanks "\n    " ++
  [wordLexeme "fn", blank, wordLexeme "assert_handler", markLexeme '<', wordLexeme "T",
    markLexeme ':', blank, .word t, blank, markLexeme '+', blank, wordLexeme "Sync", markLexeme '>',
    .opening .paren, .closing .paren, blank, .opening .brace, .closing .brace]

/-- The lexemes of the assertion of a handler. -/
def assertionText (d : Descriptor) : List Lexeme :=
  blanks "\n    " ++ [wordLexeme "assert_handler", .mark ':' true, .mark ':' true, markLexeme '<',
    .word (typeOf d), markLexeme '>', .opening .paren, .closing .paren, markLexeme ';']

/-- The lexemes between the assertions and the declarations. -/
def endText : List Lexeme :=
  blanks "\n" ++ [.closing .brace, markLexeme ';'] ++ blanks "\n"

/-- The lexemes of the declaration of the type of a handler. -/
def declarationText (d : Descriptor) : List Lexeme :=
  blanks "\n" ++ [wordLexeme "pub", blank, wordLexeme "struct", blank, .word (typeOf d), blank,
    .opening .brace, .closing .brace] ++ blanks "\n"

/-- One text for each handler. -/
def parts (text : Descriptor → List Lexeme) (handlers : List Descriptor) : List Piece :=
  handlers.flatMap fun d => [.text (text d)]

/-- The template from the first declaration on. -/
def fromDeclarations (handlers : List Descriptor) : List Piece :=
  parts declarationText handlers ++ [.text (blanks "\n")]

/-- The template from the first assertion on. -/
def fromAssertions (handlers : List Descriptor) : List Piece :=
  parts assertionText handlers ++ .text endText :: fromDeclarations handlers

/-- The template from the first entry on. -/
def fromEntries (t : Name) (handlers : List Descriptor) : List Piece :=
  parts entryText handlers ++ .text (middleText t) :: fromAssertions handlers

/-- The **lexemes of the template**, filled in. -/
def templatePieces (p : TraitPath) (handlers : List Descriptor) : List Piece :=
  .text allowanceText :: (pathPieces p.steps p.name ++
    .text (headText p.name) :: fromEntries p.name handlers)

/-! ### The text of the template -/

/-- The name of the type of a handler is spelled as it is put in. -/
theorem spelling_typeOf (d : Descriptor) : (typeOf d).spelling = d.typeName.toList :=
  Name.spelling_ofSpelling d.typeName.toList

/-- A quotation, character by character. -/
theorem toList_quote (s : String) : (Text.quote s).toList = Text.quoteChars s.toList :=
  String.toList_ofList

/-- The beginning of the source. -/
theorem toList_head {t : Template.Trait} {name : Name} (h : t.name.toList = name.spelling) :
    (Template.head t).toList = Template.mark.toList ++ '\n' :: '\n' ::
      (allowanceText.flatMap Lexeme.text ++
        (t.path.toList ++ (headText name).flatMap Lexeme.text)) := by
  unfold Template.head
  simp only [String.toList_append, List.append_assoc, h]
  simp only [String.reduceToList, Name.spelling, List.cons_append, List.nil_append, allowanceText,
    headText, fieldText, blanks, List.map_cons, List.map_nil, wordLexeme, Name.ofString, blank,
    markLexeme, List.flatMap_cons, Lexeme.text, Bool.false_eq_true, if_false, Delimiter.opener,
    Delimiter.closer, List.flatMap_nil, List.append_nil]

/-- The entry of a handler. -/
theorem toList_entry (d : Descriptor) :
    (Template.entry d).toList = (entryText d).flatMap Lexeme.text := by
  unfold Template.entry
  simp only [String.toList_append, toList_quote, List.append_assoc]
  rw [← spelling_typeOf d]
  simp only [String.reduceToList, Name.spelling, List.cons_append, List.nil_append, entryText,
    blanks, List.map_cons, List.map_nil, wordLexeme, Name.ofString, blank, markLexeme,
    List.flatMap_cons, Lexeme.text, Bool.false_eq_true, if_false, Delimiter.opener,
    Delimiter.closer, List.flatMap_nil, List.append_nil]

/-- The lines between the entries and the assertions. -/
theorem toList_middle {t : Template.Trait} {name : Name} (h : t.name.toList = name.spelling) :
    (Template.middle t).toList = (middleText name).flatMap Lexeme.text := by
  unfold Template.middle
  simp only [String.toList_append, List.append_assoc, h]
  simp only [String.reduceToList, Name.spelling, List.cons_append, List.nil_append, middleText,
    blanks, List.map_cons, List.map_nil, wordLexeme, Name.ofString, blank, markLexeme,
    List.flatMap_cons, Lexeme.text, Bool.false_eq_true, if_false, Delimiter.opener,
    Delimiter.closer, List.flatMap_nil, List.append_nil]

/-- The assertion of a handler. -/
theorem toList_assertion (d : Descriptor) :
    (Template.assertion d).toList = (assertionText d).flatMap Lexeme.text := by
  unfold Template.assertion
  simp only [String.toList_append, List.append_assoc]
  rw [← spelling_typeOf d]
  simp only [String.reduceToList, Name.spelling, List.cons_append, List.nil_append, assertionText,
    blanks, List.map_cons, List.map_nil, wordLexeme, Name.ofString, markLexeme,
    List.flatMap_cons, Lexeme.text, Bool.false_eq_true, if_false, Delimiter.opener,
    Delimiter.closer, List.flatMap_nil, List.append_nil]

/-- The declaration of the type of a handler. -/
theorem toList_declaration (d : Descriptor) :
    (Template.declaration d).toList = (declarationText d).flatMap Lexeme.text := by
  unfold Template.declaration
  simp only [String.toList_append, List.append_assoc]
  rw [← spelling_typeOf d]
  simp only [String.reduceToList, Name.spelling, List.cons_append, List.nil_append,
    declarationText, blanks, List.map_cons, List.map_nil, wordLexeme, Name.ofString, blank,
    List.flatMap_cons, Lexeme.text, Bool.false_eq_true, if_false, Delimiter.opener,
    Delimiter.closer, List.flatMap_nil, List.append_nil]

/-- The path of the trait. -/
theorem spelling_pathPieces (steps : List Name) (name : Name) :
    (pathPieces steps name).flatMap Piece.spelling =
      steps.flatMap (fun n => n.spelling ++ [':', ':']) ++ name.spelling := by
  induction steps with
  | nil =>
      rw [pathPieces, List.flatMap_nil, List.nil_append, List.flatMap_singleton, nameText,
        Piece.spelling, List.flatMap_singleton]
      rfl
  | cons n steps ih =>
      rw [pathPieces_cons, List.flatMap_cons, List.flatMap_cons, ih, nameText, Piece.spelling,
        List.flatMap_singleton, List.flatMap_cons, List.append_assoc, List.append_assoc]
      rfl

/-- One part for each handler, put together. -/
theorem toList_parts (part : Descriptor → String) (text : Descriptor → List Lexeme)
    (h : ∀ d, (part d).toList = (text d).flatMap Lexeme.text) (handlers : List Descriptor) :
    (String.join (handlers.map part)).toList =
      (parts text handlers).flatMap Piece.spelling := by
  induction handlers with
  | nil =>
      rfl
  | cons d handlers ih =>
      rw [List.map_cons, String.join_cons, String.toList_append, h, ih]
      rfl

/-- The source is the **mark, an empty line and the lexemes of the template**. -/
theorem toList_render {t : Template.Trait} {p : TraitPath} (hpath : t.path.toList = p.spelling)
    (hname : t.name.toList = p.name.spelling) (handlers : List Descriptor) :
    (Template.render t handlers).toList = Template.mark.toList ++ '\n' :: '\n' ::
      (templatePieces p handlers).flatMap Piece.spelling := by
  have hend : "\n\x7d;\n".toList = endText.flatMap Lexeme.text := by rfl
  have hlast : "\n".toList = (blanks "\n").flatMap Lexeme.text := by rfl
  unfold Template.render
  simp only [String.toList_append, toList_head hname, toList_middle hname, hpath,
    toList_parts _ _ toList_entry, toList_parts _ _ toList_assertion,
    toList_parts _ _ toList_declaration, hend, hlast, templatePieces, fromEntries, fromAssertions,
    fromDeclarations, List.flatMap_cons, List.flatMap_append, List.flatMap_nil,
    spelling_pathPieces, TraitPath.spelling, List.append_assoc, List.cons_append, List.append_nil]
  rfl

/-! ### The tokens of the template -/

/-- The template has no gaps. -/
theorem isPlain_templatePieces (p : TraitPath) (handlers : List Descriptor) :
    (templatePieces p handlers).all isPlain = true := by
  have hparts (text : Descriptor → List Lexeme) : (parts text handlers).all isPlain = true := by
    rw [parts, List.all_flatMap, List.all_eq_true]
    exact fun _ _ => rfl
  simp only [templatePieces, fromEntries, fromAssertions, fromDeclarations, List.all_cons,
    List.all_append, List.all_nil, isPlain_pathPieces, hparts, isPlain, Bool.and_true]

/-- The tokens of one part for each handler. -/
theorem tokens_parts (text : Descriptor → List Lexeme) (tokens : Descriptor → List Token)
    (h : ∀ d, (text d).flatMap Lexeme.tokens = tokens d) (handlers : List Descriptor) :
    (parts text handlers).flatMap Piece.tokens = handlers.flatMap tokens := by
  induction handlers with
  | nil =>
      rfl
  | cons d handlers ih =>
      rw [List.flatMap_cons (f := tokens), ← ih, ← h]
      rfl

/-- Blanks stand for no tokens. -/
theorem tokens_blanks (s : String) : (blanks s).flatMap Lexeme.tokens = [] := by
  rw [blanks, List.flatMap_map]
  exact List.flatMap_eq_nil_iff.2 fun _ _ => rfl

/-- The tokens up to the path of the trait. -/
theorem tokens_allowanceText :
    allowanceText.flatMap Lexeme.tokens = allowanceTokens ++ [word "use"] := by
  simp only [allowanceText, List.flatMap_append, tokens_blanks]
  rfl

/-- The tokens from behind the path of the trait to the entries. -/
theorem tokens_headText (t : Name) :
    (headText t).flatMap Lexeme.tokens = .mark ';' false :: handlerTokens t ++ tableHead := by
  simp only [headText, fieldText, List.cons_append, List.flatMap_cons, List.flatMap_append,
    tokens_blanks, List.nil_append]
  rfl

/-- The tokens between the entries and the assertions. -/
theorem tokens_middleText (t : Name) :
    (middleText t).flatMap Lexeme.tokens = tableEnd ++ assertionsHead t false := by
  simp only [middleText, List.flatMap_append, tokens_blanks, List.nil_append]
  rfl

/-- The tokens between the assertions and the declarations. -/
theorem tokens_endText : endText.flatMap Lexeme.tokens = assertionsEnd := by
  simp only [endText, List.flatMap_append, tokens_blanks, List.nil_append]
  rfl

/-- The tokens of an entry. -/
theorem tokens_entryText (d : Descriptor) :
    (entryText d).flatMap Lexeme.tokens = entryTokens d true ++ [.mark ',' false] := by
  simp only [entryText, List.flatMap_append, tokens_blanks, List.nil_append]
  rfl

/-- The tokens of an assertion. -/
theorem tokens_assertionText (d : Descriptor) :
    (assertionText d).flatMap Lexeme.tokens = assertionTokens d false := by
  simp only [assertionText, List.flatMap_append, tokens_blanks, List.nil_append]
  rfl

/-- The tokens of a declaration. -/
theorem tokens_declarationText (d : Descriptor) :
    (declarationText d).flatMap Lexeme.tokens = declarationTokens d := by
  simp only [declarationText, List.flatMap_append, tokens_blanks, List.nil_append]
  rfl

/-- The entries of the template, each with a comma behind it. -/
theorem entries_template (handlers : List Descriptor) :
    Entries handlers (handlers.flatMap fun d => entryTokens d true ++ [.mark ',' false]) := by
  induction handlers with
  | nil =>
      exact .nil
  | cons d handlers ih =>
      cases handlers with
      | nil =>
          exact .last true true
      | cons e rest =>
          rw [List.flatMap_cons, List.append_assoc]
          exact .cons true ih

/-- The assertions of the template, without commas. -/
theorem assertions_template (handlers : List Descriptor) :
    Assertions handlers (handlers.flatMap fun d => assertionTokens d false) := by
  induction handlers with
  | nil =>
      exact .nil
  | cons d handlers ih =>
      exact .cons false ih

/-- The lexemes of the template are the **tokens of generated source**. -/
theorem tokens_template (p : TraitPath) (handlers : List Descriptor) :
    Tokens p handlers ((templatePieces p handlers).flatMap Piece.tokens) := by
  have htokens := Tokens.mk (p := p) false (entries_template handlers)
    (assertions_template handlers)
  have heq : (templatePieces p handlers).flatMap Piece.tokens =
      allowanceTokens ++ importTokens p ++ handlerTokens p.name ++
        (tableHead ++ (handlers.flatMap fun d => entryTokens d true ++ [.mark ',' false]) ++
          tableEnd) ++
        (assertionsHead p.name false ++ (handlers.flatMap fun d => assertionTokens d false) ++
          assertionsEnd) ++
        handlers.flatMap declarationTokens := by
    simp only [templatePieces, fromEntries, fromAssertions, fromDeclarations, List.flatMap_cons,
      List.flatMap_append, tokens_parts _ _ tokens_entryText,
      tokens_parts _ _ tokens_assertionText, tokens_parts _ _ tokens_declarationText, Piece.tokens,
      tokens_allowanceText, tokens_headText, tokens_middleText, tokens_endText, tokens_blanks,
      tokens_pathPieces, importTokens, List.flatMap_nil, List.append_assoc, List.cons_append,
      List.nil_append, List.append_nil]
  rw [heq]
  exact htokens

/-! ### Neighbours and soundness -/

/-- The template ends with the end of a line. -/
theorem ending_templatePieces (p : TraitPath) (handlers : List Descriptor) :
    ending blank (templatePieces p handlers) = .blank '\n' := by
  rw [templatePieces, ending, ending_append, ending, fromEntries, ending_append, ending,
    fromAssertions, ending_append, ending, fromDeclarations, ending_append]
  rfl

/-- **No lexeme of the template runs into the next**. The parts are put together from the last
one to the first. -/
theorem joined_templatePieces (p : TraitPath) (handlers : List Descriptor) :
    joined blank (templatePieces p handlers) = true := by
  obtain ⟨hpath, hname⟩ := joined_pathPieces blank p.steps p.name fun _ => rfl
  have hdeclarations : joined (.blank '\n') (fromDeclarations handlers) = true :=
    joined_flatMap _ handlers (fun _ _ => rfl) (fun _ => rfl) (fun _ => rfl) rfl rfl
  have hassertions : joined (.closing .brace) (fromAssertions handlers) = true :=
    joined_flatMap (.mark ';' false) handlers (fun _ _ => rfl) (fun _ => rfl)
      (fun _ => rfl) hdeclarations hdeclarations
  have hentries : joined (.opening .bracket) (fromEntries p.name handlers) = true :=
    joined_flatMap comma handlers (fun _ _ => rfl) (fun _ => rfl) (fun _ => rfl)
      hassertions hassertions
  refine @joined_of _ [.text allowanceText] _ rfl (joined_of hpath ?_)
  change joined (ending blank (pathPieces p.steps p.name)) _ = true
  rw [hname]
  exact hentries

/-- The lexemes of an entry are what they claim to be. -/
theorem isSound_entryText {d : Descriptor} (h : (typeOf d).isSpelled = true) :
    (entryText d).all Lexeme.isSound = true := by
  simp only [entryText, List.all_append, List.all_cons, Lexeme.isSound, h]
  rfl

/-- The lexemes of an assertion are what they claim to be. -/
theorem isSound_assertionText {d : Descriptor} (h : (typeOf d).isSpelled = true) :
    (assertionText d).all Lexeme.isSound = true := by
  simp only [assertionText, List.all_append, List.all_cons, Lexeme.isSound, h]
  rfl

/-- The lexemes of a declaration are what they claim to be. -/
theorem isSound_declarationText {d : Descriptor} (h : (typeOf d).isSpelled = true) :
    (declarationText d).all Lexeme.isSound = true := by
  simp only [declarationText, List.all_append, List.all_cons, Lexeme.isSound, h]
  rfl

/-- The lexemes of the template **are what they claim to be**. -/
theorem isSound_templatePieces {p : TraitPath} {handlers : List Descriptor}
    (h : ∀ d ∈ handlers, isIdentifier (typeOf d) = true) :
    (templatePieces p handlers).all isSound = true := by
  have hname := (isIdentifier_inv p.isNamed).1
  have hhead : (headText p.name).all Lexeme.isSound = true := by
    simp only [headText, List.cons_append, List.all_append, List.all_cons, Lexeme.isSound, hname]
    rfl
  have hmiddle : (middleText p.name).all Lexeme.isSound = true := by
    simp only [middleText, List.all_append, List.all_cons, Lexeme.isSound, hname]
    rfl
  have hparts {text : Descriptor → List Lexeme}
      (htext : ∀ {d}, (typeOf d).isSpelled = true → (text d).all Lexeme.isSound = true) :
      (parts text handlers).all isSound = true := by
    rw [parts, List.all_flatMap, List.all_eq_true]
    intro d hd
    rw [List.all_cons, isSound, htext (isIdentifier_inv (h d hd)).1]
    rfl
  simp only [templatePieces, fromEntries, fromAssertions, fromDeclarations, List.all_cons,
    List.all_append, isSound_pathPieces p.areSteps p.isNamed, isSound, hhead, hmiddle,
    hparts isSound_entryText, hparts isSound_assertionText, hparts isSound_declarationText]
  rfl

/-- The template, **filled in, is cut into the tokens of generated source**. -/
theorem lexes_body {p : TraitPath} {handlers : List Descriptor}
    (h : ∀ d ∈ handlers, isIdentifier (typeOf d) = true) :
    ∃ ts, Tokens p handlers ts ∧ Lexes ((templatePieces p handlers).flatMap Piece.spelling) ts := by
  have hlast : (ending blank (templatePieces p handlers)).isLast = true := by
    rw [ending_templatePieces]
    rfl
  obtain ⟨ts, hspells, hlexes, -⟩ := lexes_of_prints (isSound_templatePieces h)
    (joined_templatePieces p handlers) hlast nofun (prints_spelling _)
  refine ⟨ts, ?_, hlexes⟩
  rw [hspells.eq_of_isPlain (isPlain_templatePieces p handlers)]
  exact tokens_template p handlers

end Scaffold.Emit
