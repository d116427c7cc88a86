import Scaffold.Proofs.Emit.Frame
import Scaffold.Proofs.Emit.ReadBack
import Scaffold.Proofs.Source.Line.Lexeme
import Scaffold.Proofs.Text.Escape

/-!
# Quotations within the template

A path or a verb is one token of the source that it is put into, whatever characters it is made of.
The quotation ends at its closing quote, and only a name directly behind it, which the template
never writes, would count among it as a suffix. The tokens of the rest of the source are therefore
the same for every path and every verb, wherever the lines in front of an entry leave no comment
and no quotation open.

## Main definitions

* `BeginsWith` - the first token of a source is a literal, and the rest is cut as it is.
* `entryStart` - the tokens of an entry up to its verb.
* `beforeEntry`, `behindVerb` - the source around these.

## Main results

* `beginsWith_quote_iff` - a quotation is the first token of a source, unless a name follows it.
* `tokens?_render` - the tokens of the template, of which one is the path and one is the verb.
* `tokens?_beforeEntry` - behind identifiers no comment and no quotation is open.
* `quote_delimits` - quotations can be read back, hold nothing but visible characters and escaped
  quotes, and keep apart what stands around them.
-/

namespace Scaffold.Emit

open Handler (Descriptor)
open Source Source.Piece

/-- A source **begins with a literal**: it is spelled at the front, nothing in front of it is
dropped, it is the first token, and the rest is cut as if it stood alone. -/
structure BeginsWith (cs : List Char) (l : Literal) (rest : List Char) : Prop where
  spelled : cs = l.spelling ++ rest
  kept : dropSeparator? cs = none
  first : next? cs = some ([.literal l], rest)
  cut : tokens? cs = (tokens? rest).map (.literal l :: ·)

/-- The tokens of an entry up to its verb. -/
def entryStart (path verb : String) : List Token :=
  [word "Handler", .opening .brace, word "path", .mark ':' false, .literal (.quoted path.toList),
    .mark ',' false, word "http_method", .mark ':' false, .literal (.quoted verb.toList)]

/-! ### Quotations -/

/-- A quotation and its suffix are the first token of a source. -/
theorem beginsWith_suffix {s : String} {suffix rest : List Char}
    (hsuffix : Literal.afterSuffix (suffix ++ rest) = rest) :
    BeginsWith ((Text.quote s).toList ++ (suffix ++ rest))
      ⟨.text s.toList, (Text.quote s).toList ++ suffix⟩ rest := by
  rw [toList_quote]
  have hdrop : dropSeparator? (Text.quoteChars s.toList ++ (suffix ++ rest)) = none := by
    rw [Text.quoteChars, List.append_assoc, List.cons_append]
    exact dropSeparator?_eq_none (by decide) (by decide)
  have hnext := @next?_quoted_suffix s.toList _ _ hsuffix
  exact ⟨(List.append_assoc _ _ _).symm, hdrop, hnext, tokens?_of_next? hdrop hnext⟩

/-- The name that follows a quotation is its suffix. -/
theorem beginsWith_word {s : String} {k w rest : List Char} (h : word? k = some (w, rest)) :
    BeginsWith ((Text.quote s).toList ++ k) ⟨.text s.toList, (Text.quote s).toList ++ w⟩ rest := by
  unfold word? at h
  split at h
  · cases h
  · next c more =>
    split at h
    · next hc =>
      cases h
      have hk : c :: more = (c :: more.takeWhile Text.continuesIdentifier) ++
          more.dropWhile Text.continuesIdentifier := by
        rw [List.cons_append, List.takeWhile_append_dropWhile]
      have hsuffix : Literal.afterSuffix (c :: more) = more.dropWhile Text.continuesIdentifier := by
        rw [Literal.afterSuffix, if_pos hc]
      rw [hk] at hsuffix ⊢
      exact beginsWith_suffix hsuffix
    · cases h

/-- A quotation is the first token of a source and leaves the rest **exactly if no name follows
it**. -/
theorem beginsWith_quote_iff {s : String} {k : List Char} :
    BeginsWith ((Text.quote s).toList ++ k) (.quoted s.toList) k ↔
      ∀ c ∈ k.head?, Text.startsIdentifier c = false := by
  constructor
  · intro h c hc
    rw [← Bool.not_eq_true]
    intro hstart
    obtain ⟨more, rfl⟩ := List.head?_eq_some_iff.1 hc
    have hword : word? (c :: more) = some (c :: more.takeWhile Text.continuesIdentifier,
        more.dropWhile Text.continuesIdentifier) := if_pos hstart
    have heq := h.first.symm.trans (beginsWith_word (s := s) hword).first
    have hrest : c :: more = more.dropWhile Text.continuesIdentifier :=
      congrArg Prod.snd (Option.some.inj heq)
    have hle := (List.dropWhile_sublist Text.continuesIdentifier (l := more)).length_le
    rw [← hrest] at hle
    exact absurd hle (Nat.not_succ_le_self _)
  · intro h
    have hsuffix : Literal.afterSuffix k = k := by
      cases k with
      | nil => rfl
      | cons c k => rw [Literal.afterSuffix, h c rfl, if_neg Bool.false_ne_true]
    have hbegins := @beginsWith_suffix s [] _ hsuffix
    rw [List.append_nil, List.nil_append] at hbegins
    rwa [Literal.quoted, ← toList_quote]

/-! ### The source around an entry -/

section Entry

variable (t : Template.Trait) (front : List Descriptor) (d : Descriptor) (back : List Descriptor)
  (path verb : String)

/-- The source in front of the entry of a handler. -/
def beforeEntry : String :=
  Template.head t ++ String.join (front.map Template.entry)

/-- The source behind the verb of a handler. -/
def behindVerb : String :=
  ",\n        handler: &" ++ d.typeName ++ " \x7b\x7d,\n    \x7d," ++
    String.join (back.map Template.entry) ++ Template.middle t ++
    String.join ((front ++ d :: back).map Template.assertion) ++ "\n\x7d;\n" ++
    String.join ((front ++ d :: back).map Template.declaration) ++ "\n"

/-- The entry of a handler up to its verb, as lexemes. -/
def entryStartText : List Lexeme :=
  blanks "\n    " ++ [wordLexeme "Handler", blank, .opening .brace] ++
  blanks "\n        " ++ [wordLexeme "path", markLexeme ':', blank, .quoted path.toList,
    markLexeme ','] ++
  blanks "\n        " ++ [wordLexeme "http_method", markLexeme ':', blank, .quoted verb.toList]

/-- The source is what stands **in front of the path, between path and verb, and behind the
verb**, which are put in as quotations. -/
theorem render_eq : Template.render t (front ++ { d with path, httpMethod := verb } :: back) =
    beforeEntry t front ++ "\n    Handler \x7b\n        path: " ++ Text.quote path ++
      ",\n        http_method: " ++ Text.quote verb ++ behindVerb t front d back := by
  unfold Template.render behindVerb
  simp only [List.map_append, List.map_cons, String.join_append, String.join_cons]
  unfold beforeEntry Template.entry Template.assertion Template.declaration
  dsimp only [Descriptor.typeName]
  simp only [String.append_assoc]

/-- The source is what stands in front of the entry, its lexemes up to the verb, and the rest. -/
theorem toList_render_entry :
    (Template.render t (front ++ { d with path, httpMethod := verb } :: back)).toList =
      (beforeEntry t front).toList ++
        ((entryStartText path verb).flatMap Lexeme.text ++ (behindVerb t front d back).toList) := by
  rw [render_eq]
  simp only [String.toList_append, toList_quote, List.append_assoc]
  simp only [String.reduceToList, List.cons_append, List.nil_append, entryStartText, blanks,
    List.map_cons, List.map_nil, wordLexeme, Name.ofString, Name.spelling, blank, markLexeme,
    List.flatMap_cons, Lexeme.text, Bool.false_eq_true, if_false, Delimiter.opener,
    List.flatMap_nil, List.append_nil, List.append_assoc]

/-- These lexemes are the tokens of an entry up to its verb. -/
theorem tokens_entryStartText :
    (entryStartText path verb).flatMap Lexeme.tokens = entryStart path verb := by
  simp only [entryStartText, List.flatMap_append, tokens_blanks, List.nil_append]
  rfl

/-- The tokens of the template are **those in front of an entry, the path and the verb among those
of its beginning, and those behind its verb**, where the source in front can be cut by itself. -/
theorem tokens?_render {ts : List Token} (h : tokens? (beforeEntry t front).toList = some ts) :
    tokens? (Template.render t (front ++ { d with path, httpMethod := verb } :: back)).toList =
      (tokens? (behindVerb t front d back).toList).map fun more =>
        ts ++ entryStart path verb ++ more := by
  have hline : ∃ w, (entryStartText path verb).flatMap Lexeme.text ++
      (behindVerb t front d back).toList = '\n' :: w := by
    rw [entryStartText]
    exact ⟨_, rfl⟩
  -- A comma follows the verb, which is no suffix of its quotation.
  have hcomma : (last blank (entryStartText path verb)).Admits
      (behindVerb t front d back).toList := by
    have hhead : (behindVerb t front d back).toList.head? = some ',' := by
      unfold behindVerb
      simp only [String.toList_append, String.reduceToList, List.append_assoc, List.cons_append,
        List.head?_cons]
    intro c hc
    obtain rfl := Option.some.inj (hhead.symm.trans hc)
    decide
  have hchain := @tokens?_chain (entryStartText path verb) _ rfl rfl hcomma
  obtain ⟨w, hw⟩ := hline
  rw [toList_render_entry, hw, tokens?_append_line h, ← hw, hchain, Option.map_map,
    tokens_entryStartText]
  simp only [Function.comp_def, List.append_assoc]

end Entry

/-! ### Names in front of an entry -/

/-- Behind entries stands a comma. -/
theorem isLast_entries (front : List Descriptor) {before : Lexeme} (h : before.isLast = true) :
    (ending before (parts entryText front)).isLast = true := by
  induction front generalizing before with
  | nil => exact h
  | cons d front ih => exact @ih comma rfl

/-- The template up to an entry can be cut, **if the names of the types in front of it are
identifiers**. -/
theorem tokens?_beforeEntry {t : Template.Trait} {p : TraitPath} {front : List Descriptor}
    (hpath : t.path.toList = p.spelling) (hname : t.name.toList = p.name.spelling)
    (h : ∀ d ∈ front, isIdentifier (typeOf d) = true) :
    ∃ ts, tokens? (beforeEntry t front).toList = some ts := by
  have htext : (beforeEntry t front).toList = Template.mark.toList ++ '\n' :: '\n' ::
      (beforeEntries p ++ parts entryText front).flatMap Piece.spelling := by
    rw [beforeEntry, String.toList_append, toList_head hname, hpath,
      toList_parts _ _ toList_entry]
    simp only [beforeEntries, List.flatMap_append, List.flatMap_cons, Piece.spelling,
      spelling_pathPieces, TraitPath.spelling, List.append_assoc, List.cons_append,
      List.nil_append]
  have hall : templatePieces p front = (beforeEntries p ++ parts entryText front) ++
      (.text (middleText p.name) :: fromAssertions front) := by
    rw [templatePieces_eq, fromEntries, List.append_assoc]
  have hjoined := joined_templatePieces p front
  have hsound := isSound_templatePieces (p := p) h
  rw [hall, joined_append, Bool.and_eq_true] at hjoined
  rw [hall, List.all_append, Bool.and_eq_true] at hsound
  have hlast : (ending blank (beforeEntries p ++ parts entryText front)).isLast = true := by
    rw [ending_append]
    apply isLast_entries
    rw [beforeEntries, ending_append]
    rfl
  obtain ⟨ts, -, hlexes, -⟩ := lexes_of_prints hsound.1 hjoined.1 hlast (absurd rfl)
    (prints_spelling _)
  rw [htext]
  exact ⟨ts, tokens?_eq_some_iff.2 (lexes_mark hlexes)⟩

/-- **Quotations delimit themselves**. In front of any text, the quotation of a string is the first
token and leaves the text as it is, unless the text begins with a name, which is then the suffix of
the token. It holds no control character, no end of a line and, between its quotes, no quote that is
not escaped. In the template, no path and no verb alters anything but its own quotation; and where
what stands in front of an entry can be cut by itself, as it can if the names in it are identifiers,
the tokens are the same for every path and every verb, but for those two. -/
theorem quote_delimits :
    (∀ (s : String) (k : List Char),
      (BeginsWith ((Text.quote s).toList ++ k) (.quoted s.toList) k ↔
        ∀ c ∈ k.head?, Text.startsIdentifier c = false) ∧
      ∀ w rest, word? k = some (w, rest) →
        BeginsWith ((Text.quote s).toList ++ k) ⟨.text s.toList, (Text.quote s).toList ++ w⟩ rest) ∧
    (∀ s : String, ∃ inside, (Text.quote s).toList = '"' :: inside ++ ['"'] ∧
      (∀ c ∈ inside, Text.controls.contains c = false ∧ Text.lineBreaks.contains c = false) ∧
      ∀ before after, inside = before ++ '"' :: after → Text.isEscaped before = true) ∧
    ∀ (t : Template.Trait) (front : List Descriptor) (d : Descriptor) (back : List Descriptor),
      (∃ before between behind : String, ∀ path verb,
        Template.render t (front ++ { d with path, httpMethod := verb } :: back) =
          before ++ Text.quote path ++ between ++ Text.quote verb ++ behind) ∧
      (∀ ts, tokens? (beforeEntry t front).toList = some ts →
        ∃ behind : Option (List Token), ∀ path verb,
          tokens? (Template.render t
              (front ++ { d with path, httpMethod := verb } :: back)).toList =
            behind.map fun more => ts ++ entryStart path verb ++ more) ∧
      ∀ p : TraitPath, t.path.toList = p.spelling → t.name.toList = p.name.spelling →
        (∀ e ∈ front, isIdentifier (typeOf e) = true) →
        ∃ ts, tokens? (beforeEntry t front).toList = some ts := by
  refine ⟨fun s k => ⟨beginsWith_quote_iff, fun w rest => beginsWith_word⟩, fun s => ?_,
    fun t front d back => ⟨⟨_, _, _, render_eq t front d back⟩, fun ts hts => ?_, fun p => ?_⟩⟩
  · refine ⟨s.toList.flatMap Text.escape, toList_quote s, fun c hc => ?_, fun before after => ?_⟩
    · have hmem : c ∈ Text.quoteChars s.toList :=
        List.mem_append_left _ (List.mem_cons_of_mem _ hc)
      exact ⟨Text.contains_eq_false_of_mem_quoteChars Text.isWithin_controls hmem,
        Text.contains_eq_false_of_mem_quoteChars Text.isWithin_lineBreaks hmem⟩
    · exact Text.isEscaped_of_flatMap_escape
  · exact ⟨_, fun path verb => tokens?_render t front d back path verb hts⟩
  · exact tokens?_beforeEntry

/-- The trait that a configuration has by default. -/
def usualTrait : Template.Trait :=
  ⟨"crate::HttpHandler", "HttpHandler"⟩

/-- The entry behind that of a handler whose name is an identifier. -/
theorem quote_delimits_secondEntry :
    (∃ ts, tokens? (beforeEntry usualTrait [⟨"/a", "GET", "a"⟩]).toList = some ts) ∧
      ∃ (ts : List Token) (behind : Option (List Token)), ∀ path verb,
        tokens? (Template.render usualTrait [⟨"/a", "GET", "a"⟩, ⟨path, verb, "b"⟩]).toList =
          behind.map fun more => ts ++ entryStart path verb ++ more := by
  obtain ⟨-, hcut, hnames⟩ := quote_delimits.2.2 usualTrait [⟨"/a", "GET", "a"⟩] ⟨"", "", "b"⟩ []
  obtain ⟨ts, hts⟩ := hnames usualPath (by decide) (by decide) (by decide)
  exact ⟨⟨ts, hts⟩, ts, hcut ts hts⟩

/-- A handler whose name **opens a comment**, and one whose name closes it. -/
def openedHandlers (path : String) : List Descriptor :=
  [⟨"/", "GET", "/*"⟩, ⟨path, "GET", "*/a"⟩]

/-- A name directly behind a quotation belongs to its token; and where a comment is open in front
of a path, the path may close it. -/
theorem quote_runsOn :
    ¬ BeginsWith ((Text.quote "a").toList ++ ['b']) (.quoted ['a']) ['b'] ∧
      (tokens? (Template.render usualTrait (openedHandlers "/")).toList).isSome = true ∧
      tokens? (Template.render usualTrait (openedHandlers "*/")).toList = none := by
  have htext (path : String) := toList_render (t := usualTrait) (p := usualPath) (by decide)
    (by decide) (openedHandlers path)
  refine ⟨fun h => ?_, ?_, ?_⟩
  · have hname := beginsWith_quote_iff.1 h 'b' rfl
    revert hname
    decide
  · rw [htext]
    decide +kernel
  · rw [htext]
    decide +kernel

end Scaffold.Emit
