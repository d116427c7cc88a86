import Scaffold.Proofs.Emit.Rendered
import Scaffold.Proofs.Source.Solid

/-!
# The template around the names of types

The name of a type is put into the template as it is, whether it is a name or not. Where it is
solid text, the template around it is cut into its own tokens all the same, but for the mark in
front of the name, which is joint if the name begins with a mark.

## Main definitions

* `Frame` - what stands around the name of a type in one part of the template.
* `entryFrame`, `assertionFrame`, `declarationFrame` - the three parts.

## Main results

* `Frame.lexes_inv` - the tokens of a name in its frame.
* `lexes_template_inv` - all of them in the tokens of the template.
-/

namespace Scaffold.Emit

open Handler (Descriptor)
open Source Source.Piece

/-! ### Hashes -/

/-- Whether there is no hash among some tokens. -/
def hasNoHash (ts : List Token) : Bool :=
  ts.all fun t =>
    match t with
    | .mark c _ => c ≠ '#'
    | _ => true

/-- Tokens behind others. -/
theorem hasNoHash_append (ts us : List Token) :
    hasNoHash (ts ++ us) = (hasNoHash ts && hasNoHash us) :=
  List.all_append

/-- A hash is not among such tokens. -/
theorem hash_notMem {ts : List Token} (h : hasNoHash ts = true) (joint : Bool) :
    .mark '#' joint ∉ ts := by
  intro hmem
  have hmark := List.all_eq_true.1 h _ hmem
  cases hmark

/-- There is none among the tokens of solid text. -/
theorem hasNoHash_of_cuts {u : List Char} {us : List Token} (h : Cuts u us)
    (hu : u.all isSolid = true) : hasNoHash us = true := by
  rw [hasNoHash, List.all_eq_true]
  intro t ht
  have hne := h.ne_hash hu t ht
  cases t with
  | mark c joint =>
    refine decide_eq_true fun hc => hne joint ?_
    rw [hc]
  | _ => rfl

/-! ### Frames -/

/-- What stands **around the name of a type**, behind the end of a line: the lexemes in front of
it, by whether it begins with a mark, and those behind it. -/
structure Frame where
  front : Bool → List Lexeme
  back : List Lexeme
  starts : ∀ joint cs, ((front joint).flatMap Lexeme.text ++ cs).head? = some '\n'
  spelled : ∀ joint, (front joint).flatMap Lexeme.text = (front false).flatMap Lexeme.text
  isFront : ∀ joint, chained blank (front joint) = true ∧
    (front joint).all Lexeme.isSound = true
  admits : ∀ cs, (last blank (front (startsMark cs))).Admits cs
  isBack : chained blank back = true ∧ back.all Lexeme.isSound = true
  ends : (last blank back).precedes blank = true
  stops : ∀ cs, Stops (back.flatMap Lexeme.text ++ cs)
  frontHash : ∀ joint, hasNoHash ((front joint).flatMap Lexeme.tokens) = true
  backHash : hasNoHash (back.flatMap Lexeme.tokens) = true

namespace Frame

/-- The name of a type in its frame. -/
def text (f : Frame) (u : List Char) : List Char :=
  (f.front false).flatMap Lexeme.text ++ (u ++ f.back.flatMap Lexeme.text)

/-- The tokens of a name in their frame. -/
def tokens (f : Frame) (joint : Bool) (us : List Token) : List Token :=
  (f.front joint).flatMap Lexeme.tokens ++ (us ++ f.back.flatMap Lexeme.tokens)

/-- A frame begins with the end of a line. -/
theorem head?_text (f : Frame) (u cs : List Char) : (f.text u ++ cs).head? = some '\n' := by
  rw [text, List.append_assoc]
  exact f.starts false _

/-- Solid text **is cut within its frame as by itself**. -/
theorem lexes_inv (f : Frame) {u cs : List Char} {ts : List Token} (hu : IsSolidText u)
    (hcs : cs.head? = some '\n') (h : Lexes (f.text u ++ cs) ts) :
    ∃ joint us more, ts = f.tokens joint us ++ more ∧ Lexes u us ∧ Cuts u us ∧ Lexes cs more := by
  obtain ⟨cs, rfl⟩ := List.head?_eq_some_iff.1 hcs
  have hblank : (last blank f.back).Admits ('\n' :: cs) :=
    @Lexeme.admits_text _ (.blank '\n') cs (by decide) ((precedes_blank _ '\n').trans f.ends)
  obtain ⟨hchain, hsound⟩ := f.isFront (startsMark (u ++ (f.back.flatMap Lexeme.text ++ '\n' :: cs)))
  rw [text, List.append_assoc, List.append_assoc, ← f.spelled] at h
  obtain ⟨ts, rfl, hname⟩ := lexes_chain_inv hchain hsound (f.admits _) h
  obtain ⟨us, ts, rfl, hus, hcuts, hback⟩ := hname.solid_inv (f.stops _) hu
  obtain ⟨more, rfl, hmore⟩ := lexes_chain_inv f.isBack.1 f.isBack.2 hblank hback
  refine ⟨startsMark (u ++ (f.back.flatMap Lexeme.text ++ '\n' :: cs)), us, more, ?_, hus, hcuts,
    hmore⟩
  rw [tokens, List.append_assoc, List.append_assoc]

/-- There is no hash among these tokens. -/
theorem hasNoHash_tokens (f : Frame) {us : List Token} (joint : Bool) (h : hasNoHash us = true) :
    hasNoHash (f.tokens joint us) = true := by
  rw [tokens, hasNoHash_append, hasNoHash_append, f.frontHash, h, f.backHash]
  rfl

end Frame

/-- What stands around a name in the entry of a handler. -/
def entryFrame (d : Descriptor) : Frame where
  front joint := blanks "\n    " ++ [wordLexeme "Handler", blank, .opening .brace] ++
    blanks "\n        " ++ [wordLexeme "path", markLexeme ':', blank, .quoted d.path.toList,
      markLexeme ','] ++
    blanks "\n        " ++ [wordLexeme "http_method", markLexeme ':', blank,
      .quoted d.httpMethod.toList, markLexeme ','] ++
    blanks "\n        " ++ [wordLexeme "handler", markLexeme ':', blank, .mark '&' joint]
  back := [blank, .opening .brace, .closing .brace, markLexeme ','] ++
    blanks "\n    " ++ [.closing .brace, markLexeme ',']
  starts _ _ := rfl
  spelled _ := rfl
  isFront _ := ⟨rfl, rfl⟩
  admits _ := rfl
  isBack := ⟨rfl, rfl⟩
  ends := rfl
  stops _ _ hc := .inl (Option.some.inj hc).symm
  frontHash _ := rfl
  backHash := rfl

/-- What stands around a name in an assertion. -/
def assertionFrame : Frame where
  front joint := blanks "\n    " ++ [wordLexeme "assert_handler", .mark ':' true, .mark ':' true,
    .mark '<' joint]
  back := [markLexeme '>', .opening .paren, .closing .paren, markLexeme ';']
  starts _ _ := rfl
  spelled _ := rfl
  isFront _ := ⟨rfl, rfl⟩
  admits _ := rfl
  isBack := ⟨rfl, rfl⟩
  ends := rfl
  stops _ _ hc := .inr (.inr (Option.some.inj hc).symm)
  frontHash _ := rfl
  backHash := rfl

/-- What stands around a name in a declaration. -/
def declarationFrame : Frame where
  front _ := blanks "\n" ++ [wordLexeme "pub", blank, wordLexeme "struct", blank]
  back := [blank, .opening .brace, .closing .brace] ++ blanks "\n"
  starts _ _ := rfl
  spelled _ := rfl
  isFront _ := ⟨rfl, rfl⟩
  admits _ := trivial
  isBack := ⟨rfl, rfl⟩
  ends := rfl
  stops _ _ hc := .inl (Option.some.inj hc).symm
  frontHash _ := rfl
  backHash := rfl

/-- The name of a handler's type in its frame. -/
def Frame.lexemes (f : Frame) (d : Descriptor) : List Lexeme :=
  f.front false ++ .word (typeOf d) :: f.back

/-- It is spelled as the name is put in. -/
theorem Frame.text_lexemes (f : Frame) (d : Descriptor) :
    (f.lexemes d).flatMap Lexeme.text = f.text d.typeName.toList := by
  rw [lexemes, List.flatMap_append, List.flatMap_cons, text, ← spelling_typeOf]
  rfl

/-- The entry of a handler is the name of its type in its frame. -/
theorem entryText_eq (d : Descriptor) : entryText d = (entryFrame d).lexemes d :=
  rfl

/-- So is the assertion. -/
theorem assertionText_eq (d : Descriptor) : assertionText d = assertionFrame.lexemes d :=
  rfl

/-- So is the declaration. -/
theorem declarationText_eq (d : Descriptor) : declarationText d = declarationFrame.lexemes d :=
  rfl

/-! ### The tokens of the template -/

/-- One part for each handler **is cut into names in their frames**. The induction is on the
handlers; behind each part, and so behind each name, the template goes on at the end of a line. -/
theorem lexes_parts_inv {text : Descriptor → List Lexeme} {frame : Descriptor → Frame}
    (htext : ∀ d, text d = (frame d).lexemes d) {handlers : List Descriptor} {cs : List Char}
    {ts : List Token}
    (hsolid : ∀ d ∈ handlers, IsSolidText d.typeName.toList) (hcs : cs.head? = some '\n')
    (h : Lexes ((parts text handlers).flatMap Piece.spelling ++ cs) ts) :
    ∃ front more, ts = front ++ more ∧ Lexes cs more ∧ hasNoHash front = true ∧
      ∀ d ∈ handlers, ∃ joint us, Lexes d.typeName.toList us ∧ Cuts d.typeName.toList us ∧
        (frame d).tokens joint us <:+: front := by
  induction handlers generalizing ts with
  | nil => exact ⟨[], ts, rfl, h, rfl, nofun⟩
  | cons d handlers ih =>
    have hspelling : (parts text (d :: handlers)).flatMap Piece.spelling ++ cs =
        (frame d).text d.typeName.toList ++
          ((parts text handlers).flatMap Piece.spelling ++ cs) := by
      rw [← Frame.text_lexemes, ← htext, ← List.append_assoc]
      rfl
    have hhead : ((parts text handlers).flatMap Piece.spelling ++ cs).head? = some '\n' := by
      cases handlers with
      | nil => exact hcs
      | cons e handlers =>
        have hnext : (parts text (e :: handlers)).flatMap Piece.spelling =
            (text e).flatMap Lexeme.text ++ (parts text handlers).flatMap Piece.spelling := rfl
        rw [hnext, htext, Frame.text_lexemes, List.append_assoc, Frame.head?_text]
    rw [hspelling] at h
    have hd := hsolid d List.mem_cons_self
    obtain ⟨joint, us, ts, rfl, hus, hcuts, hrest⟩ := (frame d).lexes_inv hd hhead h
    obtain ⟨front, more, rfl, hmore, hhash, hall⟩ :=
      ih (fun e he => hsolid e (List.mem_cons_of_mem d he)) hrest
    refine ⟨(frame d).tokens joint us ++ front, more, (List.append_assoc _ _ _).symm, hmore, ?_, ?_⟩
    · rw [hasNoHash_append, (frame d).hasNoHash_tokens joint (hasNoHash_of_cuts hcuts hd.solid),
        hhash]
      rfl
    · intro e he
      rcases List.mem_cons.1 he with rfl | he
      · exact ⟨joint, us, hus, hcuts, (List.prefix_append _ _).isInfix⟩
      · obtain ⟨joint', us', hus', hcuts', hwithin⟩ := hall e he
        exact ⟨joint', us', hus', hcuts', hwithin.trans (List.suffix_append _ _).isInfix⟩

/-- The template up to its first entry. -/
def beforeEntries (p : TraitPath) : List Piece :=
  .text allowanceText :: pathPieces p.steps p.name ++ [.text (headText p.name)]

/-- Entries and all that follows stand behind it. -/
theorem templatePieces_eq (p : TraitPath) (handlers : List Descriptor) :
    templatePieces p handlers = beforeEntries p ++ fromEntries p.name handlers := by
  rw [beforeEntries, List.append_assoc]
  rfl

/-- It is cut into its own tokens. -/
theorem lexes_beforeEntries_inv {p : TraitPath} {cs : List Char} {ts : List Token}
    (h : Lexes ((beforeEntries p).flatMap Piece.spelling ++ cs) ts) :
    ∃ more, ts = allowanceTokens ++ word "use" :: (pathTokens p.steps p.name ++
      .mark ';' false :: (handlerTokens p.name ++ tableHead)) ++ more ∧ Lexes cs more := by
  have hjoined := joined_templatePieces p []
  have hsound := isSound_templatePieces (p := p) (List.forall_mem_nil _)
  rw [templatePieces_eq, joined_append, Bool.and_eq_true] at hjoined
  rw [templatePieces_eq, List.all_append, Bool.and_eq_true] at hsound
  have hending : ending blank (beforeEntries p) = .opening .bracket := by
    rw [beforeEntries, ending_append]
    rfl
  have hcs : (ending blank (beforeEntries p)).Admits cs := by
    rw [hending]
    trivial
  obtain ⟨more, rfl, hmore⟩ := lexes_spelling_inv hjoined.1 hsound.1 hcs h
  refine ⟨more, ?_, hmore⟩
  simp only [beforeEntries, List.flatMap_append, List.flatMap_cons, List.flatMap_nil, Piece.tokens,
    tokens_allowanceText, tokens_pathPieces, tokens_headText, List.append_assoc, List.cons_append,
    List.nil_append, List.append_nil]

/-- There is no hash in the path of the trait. -/
theorem hasNoHash_pathTokens (steps : List Name) (name : Name) :
    hasNoHash (pathTokens steps name) = true := by
  induction steps with
  | nil => rfl
  | cons n steps ih => exact ih

/-- A part of the template without names is cut into its own tokens. -/
theorem lexes_text_inv {ls : List Lexeme} {ps : List Piece} {ts : List Token}
    (hchain : chained blank ls = true) (hsound : ls.all Lexeme.isSound = true)
    (hlast : ∀ cs, (last blank ls).Admits cs)
    (h : Lexes ((.text ls :: ps).flatMap Piece.spelling) ts) :
    ∃ more, ts = ls.flatMap Lexeme.tokens ++ more ∧ Lexes (ps.flatMap Piece.spelling) more :=
  lexes_chain_inv hchain hsound (hlast _) h

/-- The tokens of a template that is cut, **whatever solid text the names of the types are**: the
attribute, and behind the first word of the import no hash, but the tokens of each name both in
angle brackets and behind the word that begins a record. -/
theorem lexes_template_inv {p : TraitPath} {handlers : List Descriptor} {ts : List Token}
    (hsolid : ∀ d ∈ handlers, IsSolidText d.typeName.toList)
    (h : Lexes ((templatePieces p handlers).flatMap Piece.spelling) ts) :
    ∃ rest, ts = allowanceTokens ++ word "use" :: rest ∧ hasNoHash rest = true ∧
      ∀ d ∈ handlers, ∃ joint us, Cuts d.typeName.toList us ∧
        assertionFrame.tokens joint us <:+: rest ∧ declarationFrame.tokens joint us <:+: rest := by
  have hmiddle : (middleText p.name).all Lexeme.isSound = true := by
    have hsound := isSound_templatePieces (p := p) (List.forall_mem_nil _)
    rw [templatePieces_eq, List.all_append, Bool.and_eq_true] at hsound
    exact (Bool.and_eq_true_iff.1 hsound.2).1
  -- The template is cut from the front: a text without names, then a part for each name, and so on.
  rw [templatePieces_eq, List.flatMap_append] at h
  obtain ⟨ts, rfl, hentries⟩ := lexes_beforeEntries_inv h
  rw [fromEntries, List.flatMap_append] at hentries
  obtain ⟨entries, ts, rfl, hmid, hentriesHash, -⟩ :=
    lexes_parts_inv entryText_eq hsolid rfl hentries
  obtain ⟨ts, rfl, hassertions⟩ := lexes_text_inv rfl hmiddle (fun _ => trivial) hmid
  rw [fromAssertions, List.flatMap_append] at hassertions
  obtain ⟨assertions, ts, rfl, hend, hassertionsHash, hassertion⟩ :=
    lexes_parts_inv assertionText_eq hsolid rfl hassertions
  obtain ⟨ts, rfl, hdeclarations⟩ := @lexes_text_inv endText _ _ rfl rfl (fun _ => trivial) hend
  rw [fromDeclarations, List.flatMap_append] at hdeclarations
  obtain ⟨declarations, ts, rfl, hlast, hdeclarationsHash, hdeclaration⟩ :=
    lexes_parts_inv declarationText_eq hsolid rfl hdeclarations
  obtain ⟨ts, rfl, hnil⟩ := @lexes_text_inv (blanks "\n") [] _ rfl rfl (fun _ => trivial) hlast
  obtain rfl : [] = ts := Option.some.inj hnil.tokens?_eq_some
  rw [tokens_middleText, tokens_endText, List.append_nil]
  refine ⟨pathTokens p.steps p.name ++ .mark ';' false :: (handlerTokens p.name ++ tableHead) ++
    (entries ++ (tableEnd ++ assertionsHead p.name false ++
      (assertions ++ (assertionsEnd ++ declarations)))), ?_, ?_, fun d hd => ?_⟩
  · simp only [List.append_assoc, List.cons_append]
  · have hhandler : hasNoHash (.mark ';' false :: (handlerTokens p.name ++ tableHead)) = true := rfl
    have hhead : hasNoHash (tableEnd ++ assertionsHead p.name false) = true := rfl
    have hend : hasNoHash assertionsEnd = true := rfl
    simp only [hasNoHash_append, hasNoHash_pathTokens, hhandler, hhead, hend, hentriesHash,
      hassertionsHash, hdeclarationsHash, Bool.and_true]
  · obtain ⟨joint, us, hus, hcuts, hwithin⟩ := hassertion d hd
    obtain ⟨joint', us', hus', -, hwithin'⟩ := hdeclaration d hd
    -- One name is cut into the same tokens wherever it stands.
    obtain rfl : us' = us :=
      Option.some.inj (hus'.tokens?_eq_some.symm.trans hus.tokens?_eq_some)
    refine ⟨joint, us', hcuts, hwithin.trans ?_, hwithin'.trans ?_⟩
    · have hback : assertions ++ (assertionsEnd ++ declarations) <:+
          entries ++ (tableEnd ++ assertionsHead p.name false ++
            (assertions ++ (assertionsEnd ++ declarations))) :=
        (List.suffix_append _ _).trans (List.suffix_append _ _)
      have hfront := (List.prefix_append assertions (assertionsEnd ++ declarations)).isInfix
      exact hfront.trans (hback.trans (List.suffix_append _ _)).isInfix
    · simp only [← List.append_assoc]
      exact (List.suffix_append _ declarations).isInfix

end Scaffold.Emit
