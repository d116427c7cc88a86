import Scaffold.Proofs.Yaml.Scalar.Plain
import Scaffold.Proofs.Yaml.Scalar.Quoted
import Scaffold.Proofs.Yaml.Writer

/-!
# Tokens of a mapping

The lexer stands at the start of a line in front of every entry of a mapping that was written. It
takes the name for a plain scalar, finds at the colon that it was a key, and reads the text in the
style in which it was written, up to the start of the next line. What the text holds decides the
line that is reached, and nothing else.

## Main definitions

* `atLine`, `atColon`, `atValue` - the lexer at the three places where it reads a token of an entry.
* `ReadsAs` - a text in a style is read as one token.

## Main results

* `readsAs_styleOf` - every text is read as one token in its own style.
* `readWithin_entry` - the tokens of an entry.
* `tokens?_writeMapping` - the tokens of a mapping.
-/

namespace Scaffold.Yaml

namespace Lexer

variable {s s' t : State} {c : Char} {cs front more name : List Char} {tokens : List Token}
  {indents : List Nat} {line column n : Nat}

/-! ### Moving on -/

/-- Characters that are passed change the **place** only. -/
theorem foldl_pass (s : State) (cs : List Char) :
    ∃ line column, cs.foldl State.pass s = { s with line := line, column := column } := by
  induction cs generalizing s with
  | nil => exact ⟨s.line, s.column, rfl⟩
  | cons c cs ih =>
    obtain ⟨line, column, h⟩ := ih (s.pass c)
    refine ⟨line, column, h.trans ?_⟩
    unfold State.pass
    split <;> rfl

/-- On one line, only the **column** changes. -/
theorem foldl_pass_eq (hcs : ∀ c ∈ cs, isBreak c = false) (s : State) :
    cs.foldl State.pass s = { s with column := s.column + cs.length } := by
  induction cs generalizing s with
  | nil => rfl
  | cons c cs ih =>
    obtain ⟨hc, hcs⟩ := List.forall_mem_cons.1 hcs
    rw [List.foldl_cons, ih hcs, State.pass, hc]
    simp [Nat.add_assoc, Nat.add_comm 1]

/-- Moving on over a part of the text **passes** its characters. -/
theorem moveTo_append (h : s.rest = front ++ more) :
    s.moveTo more = { front.foldl State.pass s with rest := more } := by
  rw [State.moveTo, h, List.length_append, Nat.add_sub_cancel, List.take_left]

/-- Moving on over **one character**. -/
theorem moveTo_tail (h : s.rest = c :: cs) : s.moveTo cs = { s.pass c with rest := cs } :=
  @moveTo_append s [c] cs h

/-- Moving on by **nothing**. -/
theorem moveTo_rest (s : State) : s.moveTo s.rest = s := by
  rw [State.moveTo, Nat.sub_self]
  rfl

/-- Behind a line end the column is the **first**. -/
theorem moveTo_concat (h : s.rest = front ++ c :: more) (hc : isBreak c = true) :
    ∃ line, s.moveTo more = { s with rest := more, line := line, column := 0 } := by
  obtain ⟨line, column, hfront⟩ := foldl_pass s front
  have hrest : s.rest = (front ++ [c]) ++ more := by
    rw [h, List.append_assoc, List.singleton_append]
  refine ⟨line + 1, ?_⟩
  rw [moveTo_append hrest, List.foldl_append, hfront, List.foldl_cons, State.pass, if_pos hc]
  rfl

/-! ### Skipping -/

/-- In front of a token nothing is skipped. -/
theorem skipFrom_eq_self (h : BeginsToken cs) (inFlow keyAllowed : Bool) (column : Nat) :
    skipFrom inFlow keyAllowed false column cs = (keyAllowed, cs) := by
  cases cs with
  | nil => rfl
  | cons c cs =>
    obtain ⟨hgap, hbreak, hcomment, hmark⟩ := h c rfl
    obtain ⟨hspace, htab⟩ := Bool.or_eq_false_iff.1 hgap
    simp [skipFrom, hbreak, hcomment, hmark, of_decide_eq_false hspace, of_decide_eq_false htab]

/-- The lexer stays **in front of a token**. -/
theorem skip_eq_self (h : BeginsToken s.rest) : skip s = s := by
  rw [skip, skipFrom_eq_self h]
  dsimp only
  rw [moveTo_rest]
  rfl

/-- The **space** behind the colon of a key is skipped. -/
theorem skip_space (hrest : s.rest = ' ' :: cs) (h : BeginsToken cs) :
    skip s = { s with rest := cs, column := s.column + 1 } := by
  have hskip : skipFrom s.inFlow s.keyAllowed false s.column (' ' :: cs) = (s.keyAllowed, cs) := by
    rw [skipFrom, if_neg (by decide), if_pos (by simp), skipFrom_eq_self h]
  rw [skip, hrest, hskip]
  dsimp only
  rw [moveTo_tail hrest]
  rfl

/-- The **end of a line** is skipped, and a key may begin on the next one. -/
theorem skip_break (hrest : s.rest = '\n' :: cs) (hflow : s.inFlow = false) (h : BeginsToken cs) :
    skip s = { s with rest := cs, line := s.line + 1, column := 0, keyAllowed := true } := by
  have hskip : skipFrom s.inFlow s.keyAllowed false s.column ('\n' :: cs) = (true, cs) := by
    rw [hflow]
    exact (skipFrom_eq_self h _ _ 0).trans (by rw [Bool.not_false, Bool.or_true])
  rw [skip, hrest, hskip]
  dsimp only
  rw [moveTo_tail hrest]
  rfl

/-! ### One token -/

/-- A text where the **next entry** of a mapping begins, or there is none. -/
def BeginsKey (cs : List Char) : Prop :=
  ∀ c ∈ cs.head?, isKeyChar c = true

/-- An entry begins with a token. -/
theorem BeginsKey.beginsToken (h : BeginsKey cs) : BeginsToken cs := fun c hc =>
  ⟨isGap_of_isKeyChar (h c hc), isBreak_of_isKeyChar (h c hc),
    ne_of_isKeyChar (h c hc) (by decide), ne_of_isKeyChar (h c hc) (by decide)⟩

/-- The lexer at the **start of a line**, outside of flow collections. -/
def atLine (more : List Char) (line : Nat) (indents : List Nat) (tokens : List Token) : State where
  rest := more
  line := line
  indents := indents
  tokens := tokens

/-- A token is read **where the lexer stands**: nothing is skipped, no key is missed and no block
ends. -/
theorem readWithin_succ (hskip : skip s = t) (hexpire : expire t = some t)
    (hclose : t.close (· ≤ t.column) = t) (hrest : t.rest ≠ []) (hfetch : fetch t = some s') :
    readWithin (n + 1) s = readWithin n s' := by
  have hnil : t.rest.isEmpty = false := by
    rw [List.isEmpty_eq_false_iff]
    exact hrest
  rw [readWithin, hskip, hexpire]
  simp only [hclose, hnil, Bool.false_eq_true, if_false, hfetch, Option.bind_some]

/-- Away from the margin a token is told by its **first character**. -/
theorem fetch_eq_fetchChar (hcolumn : s.column ≠ 0) (hrest : s.rest = c :: cs) :
    fetch s = fetchChar s c := by
  rw [fetch, hrest, decide_eq_false hcolumn]
  rfl

/-- A mark of **one character** is passed. -/
theorem mark_one (hrest : s.rest = c :: cs) (hc : isBreak c = false) (t : Token) :
    mark s 1 t = { s with rest := cs, column := s.column + 1, tokens := t :: s.tokens } := by
  rw [mark, hrest, List.drop_one, List.tail_cons, moveTo_tail hrest, State.pass, hc]
  rfl

/-- A character that is no mark begins a **plain scalar**. -/
theorem fetchChar_eq_plain (hflow : s.inFlow = false)
    (hmark : "#,[]\x7b\x7d&*!|>'\"%@`".toList.contains c = false)
    (hentry : "?:-".toList.contains c = true → endsWord (s.rest.drop 1) = false)
    (hstarts : Plain.starts false s.rest = true) : fetchChar s c = plain s := by
  have hmarks : ∀ d ∈ ['|', '>'], c ≠ d := by
    rintro d hd rfl
    obtain rfl | rfl : c = '|' ∨ c = '>' := by simpa using hd
    all_goals exact absurd hmark (by decide)
  have hentries : ∀ d ∈ ['?', ':', '-'], (c = d && endsWord (s.rest.drop 1)) = false := by
    intro d hd
    by_cases hc : c = d
    · rw [hentry (List.contains_iff_mem.2 (hc ▸ hd)), Bool.and_false]
    · rw [decide_eq_false hc, Bool.false_and]
  unfold fetchChar
  split
  case h_11 =>
    rw [standsAlone, hflow, Bool.false_or, hentries '-' (by decide), hentries '?' (by decide),
      hentries ':' (by decide), decide_eq_false (hmarks '|' (by decide)),
      decide_eq_false (hmarks '>' (by decide)), hstarts]
    rfl
  all_goals exact absurd hmark (by decide)

/-- The lexer behind the **name of an entry**. -/
def atColon (more name : List Char) (line : Nat) (indents : List Nat) (tokens : List Token) :
    State where
  rest := ':' :: ' ' :: more
  line := line
  column := name.length
  indents := indents
  candidate := some ⟨tokens.length, line, 0, indents.head? = some 0⟩
  keyAllowed := false
  tokens := .scalar .plain name :: tokens

/-- The **name of an entry** is read as a plain scalar, which may become a key. -/
theorem fetch_name (hname : IsKey name) :
    fetch (atLine (name ++ ':' :: ' ' :: more) line indents tokens) =
      some (atColon more name line indents tokens) := by
  obtain ⟨c, cs, rfl⟩ := List.exists_cons_of_ne_nil hname.ne_nil
  have hc := hname.chars c List.mem_cons_self
  have hmark := Plain.isIndicator_of_isKeyChar hc
  rw [Plain.isIndicator_eq, Bool.or_eq_false_iff] at hmark
  have hplain :
      fetchChar (atLine (c :: cs ++ ':' :: ' ' :: more) line indents tokens) c = plain _ :=
    fetchChar_eq_plain rfl hmark.2 (fun h => absurd (hmark.1.symm.trans h) (by decide))
      (Plain.starts_name hname _)
  have hmargin : c ≠ '%' ∧ c ≠ '-' ∧ c ≠ '.' :=
    ⟨ne_of_isKeyChar hc (by decide), ne_of_isKeyChar hc (by decide), ne_of_isKeyChar hc (by decide)⟩
  have hfetch : fetch (atLine (c :: cs ++ ':' :: ' ' :: more) line indents tokens) =
      plain (atLine (c :: cs ++ ':' :: ' ' :: more) line indents tokens) := by
    rw [← hplain]
    simp [fetch, atLine, startsDocument, endsDocument, hmargin]
  have hbreak : ∀ d ∈ c :: cs, isBreak d = false :=
    fun d hd => isBreak_of_isKeyChar (hname.chars d hd)
  rw [hfetch, plain]
  change (Plain.read false _ (c :: cs ++ ':' :: ' ' :: more)).bind _ = _
  rw [Plain.read_name hname, Option.bind_some, moveTo_append rfl, foldl_pass_eq hbreak]
  simp only [atLine, State.push, State.allow, atColon, State.here, Nat.zero_add]
  rfl

/-- The token that **opens the block** of the first entry. -/
def opening (indents : List Nat) : List Token :=
  if indents.isEmpty then [.blockMapping] else []

/-- The lexer **in front of the text of an entry**, in the block at the margin. -/
def atValue (cs : List Char) (line column : Nat) (tokens : List Token) : State where
  rest := cs
  line := line
  column := column
  indents := [0]
  keyAllowed := false
  tokens := tokens

/-- A token is put **behind the first ones**. -/
theorem insert_append {behind tokens : List Token} (h : s.tokens = behind ++ tokens) (t : Token) :
    s.insert tokens.length t = { s with tokens := behind ++ t :: tokens } := by
  rw [State.insert, h, List.length_append, Nat.add_sub_cancel, List.take_left, List.drop_left]

/-- The colon makes the name in front of it a **key**, and the first one opens a block. -/
theorem fetch_colon (hname : IsKey name) (hindents : indents = [] ∨ indents = [0]) :
    fetch (atColon cs name line indents tokens) =
      some (atValue (' ' :: cs) line (name.length + 1)
        (.value :: .scalar .plain name :: .key :: (opening indents ++ tokens))) := by
  have hcolumn : name.length ≠ 0 := mt List.length_eq_zero_iff.1 hname.ne_nil
  have hfetch : fetch (atColon cs name line indents tokens) =
      value (atColon cs name line indents tokens) := by
    rw [fetch_eq_fetchChar hcolumn rfl]
    rfl
  have hopen : ((atColon cs name line indents tokens).insert tokens.length .key).begin 0
        tokens.length .blockMapping =
      { atColon cs name line indents tokens with
        indents := [0], tokens := .scalar .plain name :: .key :: (opening indents ++ tokens) } := by
    rw [@insert_append _ [.scalar .plain name] tokens rfl]
    rcases hindents with rfl | rfl
    · change { State.insert _ tokens.length .blockMapping with indents := [0] } = _
      rw [@insert_append _ [.scalar .plain name, .key] tokens rfl]
      rfl
    · rfl
  rw [hfetch]
  change some (mark { State.begin _ 0 tokens.length .blockMapping with
    candidate := none, keyAllowed := false } 1 .value) = _
  rw [hopen, mark_one rfl rfl]
  rfl

/-! ### Texts -/

/-- A text in a style is read as **one token**, up to the next line. -/
def ReadsAs (style : Style) (cs : List Char) : Prop :=
  ∀ (more : List Char) (line column : Nat) (tokens : List Token), BeginsKey more → column ≠ 0 →
    BeginsToken (writeStyled style cs ++ more) ∧
    ∃ s line', fetch (atValue (writeStyled style cs ++ more) line column tokens) = some s ∧
      skip s = atLine more line' [0] (.scalar style cs :: tokens)

/-- A text in **plain style** is read with the end of its line. -/
theorem readsAs_plain (h : allowsPlain cs = true) (hne : cs ≠ []) : ReadsAs .plain cs := by
  intro more line column tokens hmore hcolumn
  obtain ⟨c, cs, rfl⟩ := List.exists_cons_of_ne_nil hne
  obtain ⟨-, -, -, hmark, hentry⟩ := Plain.head_of_allowsPlain h
  have hread := Plain.read_append Nat.one_pos hmore.beginsToken h hne
  have hplain : fetchChar (atValue (c :: cs ++ '\n' :: more) line column tokens) c = plain _ :=
    fetchChar_eq_plain rfl hmark (fun h => (endsWord_append _ _).trans (hentry h))
      (Plain.starts_append h hne more)
  obtain ⟨line', hmove⟩ := @moveTo_concat (atValue (c :: cs ++ '\n' :: more) line column tokens)
    '\n' (c :: cs) more rfl rfl
  rw [writeStyled, List.append_assoc, List.singleton_append]
  refine ⟨Plain.beginsToken_append h hne _,
    atLine more line' [0] (.scalar .plain (c :: cs) :: tokens), line', ?_,
    skip_eq_self hmore.beginsToken⟩
  rw [fetch_eq_fetchChar hcolumn rfl, hplain]
  change (Plain.read false 1 (c :: cs ++ '\n' :: more)).bind _ = _
  rw [hread, Option.bind_some, hmove]
  rfl

/-- A text **between quotes** is read up to the end of its line, which is skipped in front of the
next token. -/
theorem readsAs_of_node {style : Style} {quote : Char} {inside : List Char}
    {read : List Char → Option (Token × List Char)}
    (hwritten : writeStyled style cs = quote :: (inside ++ [quote]) ++ ['\n'])
    (hquote : BeginsToken [quote]) (hfetch : ∀ s, fetchChar s quote = node s read)
    (hread : ∀ rest, read (inside ++ quote :: '\n' :: rest) =
      some (.scalar style cs, '\n' :: rest)) : ReadsAs style cs := by
  intro more line column tokens hmore hcolumn
  have hrest : writeStyled style cs ++ more = quote :: (inside ++ quote :: '\n' :: more) := by
    simp [hwritten]
  obtain ⟨line', column', hpassed⟩ :=
    foldl_pass (atValue (quote :: (inside ++ quote :: '\n' :: more)) line column tokens)
      (quote :: (inside ++ [quote]))
  have hmove : (atValue (quote :: (inside ++ quote :: '\n' :: more)) line column tokens).moveTo
      ('\n' :: more) = atValue ('\n' :: more) line' column' tokens := by
    rw [@moveTo_append _ (quote :: (inside ++ [quote])) _ (by simp [atValue]), hpassed]
    rfl
  rw [hrest]
  refine ⟨beginsToken_cons.2 (beginsToken_cons.1 hquote),
    atValue ('\n' :: more) line' column' (.scalar style cs :: tokens), line' + 1, ?_,
    skip_break rfl rfl hmore.beginsToken⟩
  rw [fetch_eq_fetchChar hcolumn rfl, hfetch]
  change (read (inside ++ quote :: '\n' :: more)).bind _ = _
  rw [hread, Option.bind_some]
  dsimp only
  rw [hmove]
  rfl

/-- A text between **single quotes**. -/
theorem readsAs_singleQuoted (h : allowsSingle cs = true) (hfeed : '\n' ∉ cs) :
    ReadsAs .singleQuoted cs := by
  have hwritten : writeStyled .singleQuoted cs =
      '\'' :: (writeSingle false cs ++ ['\'']) ++ ['\n'] := by
    simp [writeStyled]
  have hfetch (s : State) : fetchChar s '\'' = node s fun cs =>
      (SingleQuoted.read cs).map fun r => (.scalar .singleQuoted r.1, r.2) :=
    rfl
  refine readsAs_of_node hwritten (beginsToken_cons.2 (by decide)) hfetch fun rest => ?_
  rw [SingleQuoted.read_writeSingle h hfeed]
  rfl

/-- A text between **double quotes**. -/
theorem readsAs_doubleQuoted (cs : List Char) : ReadsAs .doubleQuoted cs := by
  have hwritten : writeStyled .doubleQuoted cs =
      '"' :: (cs.flatMap writeDoubleChar ++ ['"']) ++ ['\n'] := by
    simp [writeStyled]
  have hfetch (s : State) : fetchChar s '"' = node s fun cs =>
      (DoubleQuoted.read cs).map fun r => (.scalar .doubleQuoted r.1, r.2) :=
    rfl
  refine readsAs_of_node hwritten (beginsToken_cons.2 (by decide)) hfetch fun rest => ?_
  rw [DoubleQuoted.read_flatMap]
  rfl

/-- A text as **indented lines** is read with the end of the last one. -/
theorem readsAs_literal (h : allowsLines cs = true) (hne : cs ≠ []) : ReadsAs .literal cs := by
  intro more line column tokens hmore hcolumn
  have hread := Block.read_writeStyled h hne hmore.beginsToken
  obtain ⟨body, c, hwritten, hc⟩ := Block.writeStyled_eq cs
  have hrest : writeStyled .literal cs ++ more = '|' :: body ++ c :: more := by
    rw [hwritten, List.append_assoc, List.singleton_append]
  rw [hrest] at hread ⊢
  obtain ⟨line', hmove⟩ := @moveTo_concat (atValue ('|' :: body ++ c :: more) line column tokens)
    c ('|' :: body) more rfl hc
  refine ⟨beginsToken_cons.2 (by decide), atLine more line' [0] (.scalar .literal cs :: tokens),
    line', ?_, skip_eq_self hmore.beginsToken⟩
  rw [fetch_eq_fetchChar hcolumn rfl]
  change (Block.read false (some 0) (('|' :: body ++ c :: more).drop 1)).bind _ = _
  rw [hread, Option.bind_some]
  change some (((State.moveTo (atValue ('|' :: body ++ c :: more) line column tokens) more).push
    (.scalar .literal cs)).allow true) = _
  rw [hmove]
  rfl

/-- Every text is read as one token **in the style that it is written in**. -/
theorem readsAs_styleOf (cs : List Char) : ReadsAs (styleOf cs) cs := by
  refine styleOf_cases (motive := (ReadsAs · cs)) cs (fun hambiguous hplain => ?_)
    readsAs_singleQuoted (readsAs_doubleQuoted cs) readsAs_literal
  refine readsAs_plain hplain ?_
  rintro rfl
  cases hambiguous

/-! ### Entries -/

/-- The token of a text or a null. -/
def scalarToken (value : Option (List Char)) : Token :=
  match value with
  | some cs => .scalar (styleOf cs) cs
  | none => .scalar .plain "null".toList

/-- The tokens of an entry. -/
def entryTokens (entry : List Char × Option (List Char)) : List Token :=
  [.key, .scalar .plain entry.1, .value, scalarToken entry.2]

/-- What is written for a text or a null is read as **its token**. -/
theorem exists_readsAs (value : Option (List Char)) :
    ∃ style cs, writeOptional value = writeStyled style cs ∧ scalarToken value = .scalar style cs ∧
      ReadsAs style cs := by
  cases value with
  | none => exact ⟨.plain, "null".toList, rfl, rfl, readsAs_plain (by decide) (by decide)⟩
  | some cs => exact ⟨styleOf cs, cs, rfl, rfl, readsAs_styleOf cs⟩

/-- A key stays a candidate up to the colon **behind its name**. -/
theorem expire_atColon (hname : IsKey name) :
    expire (atColon cs name line indents tokens) = some (atColon cs name line indents tokens) := by
  have hstale (required : Bool) :
      isStale (atColon cs name line indents tokens) ⟨tokens.length, line, 0, required⟩ = false := by
    simp [isStale, atColon, hname.length_le]
  dsimp only [atColon] at hstale ⊢
  simp [expire, hstale]

/-- At the margin no block ends, nor does one further to the right. -/
theorem close_eq_self (h : s.indents = [] ∨ s.indents = [0]) : s.close (· ≤ s.column) = s := by
  cases s
  obtain rfl | rfl := h
  all_goals simp [State.close]

/-- An **entry** is read by three tokens, with the one of its key put in front. -/
theorem readWithin_entry (hname : IsKey name) (value : Option (List Char)) (hmore : BeginsKey more)
    (hindents : indents = [] ∨ indents = [0])
    (hs : skip s =
      atLine (name ++ ':' :: ' ' :: (writeOptional value ++ more)) line indents tokens) :
    ∃ s' line', readWithin (n + 3) s = readWithin n s' ∧
      skip s' = atLine more line' [0]
        ((entryTokens (name, value)).reverse ++ (opening indents ++ tokens)) := by
  obtain ⟨style, cs, hwritten, htoken, hreads⟩ := exists_readsAs value
  rw [hwritten] at hs
  have hrest : writeStyled style cs ++ more ≠ [] := by
    cases style <;> simp [writeStyled, linesHeader]
  obtain ⟨hbegin, s', line', hfetch, hskip⟩ := hreads more line (name.length + 2)
    (.value :: .scalar .plain name :: .key :: (opening indents ++ tokens)) hmore (by omega)
  have hspace : skip (atValue (' ' :: (writeStyled style cs ++ more)) line (name.length + 1)
      (.value :: .scalar .plain name :: .key :: (opening indents ++ tokens))) =
        atValue (writeStyled style cs ++ more) line (name.length + 2) _ :=
    skip_space rfl hbegin
  refine ⟨s', line', ?_, ?_⟩
  · rw [readWithin_succ hs rfl (close_eq_self hindents) (by simp [atLine]) (fetch_name hname),
      readWithin_succ (skip_eq_self (beginsToken_cons.2 (by decide))) (expire_atColon hname)
        (close_eq_self hindents) (by simp [atColon]) (fetch_colon hname hindents),
      readWithin_succ hspace rfl (close_eq_self (.inr rfl)) hrest hfetch]
  · rw [hskip, ← htoken]
    rfl

/-- A mapping begins with **its first key**. -/
theorem beginsKey_writeMapping {entries : List (List Char × Option (List Char))}
    (hnames : ∀ entry ∈ entries, IsKey entry.1) : BeginsKey (writeMapping entries) := by
  cases entries with
  | nil => exact nofun
  | cons entry entries =>
    obtain ⟨name, value⟩ := entry
    obtain ⟨hname, -⟩ := List.forall_mem_cons.1 hnames
    obtain ⟨c, cs, rfl⟩ := List.exists_cons_of_ne_nil hname.ne_nil
    rintro _ ⟨⟩
    exact hname.chars c List.mem_cons_self

/-- The first entry of a mapping is its name, a colon, a space and its text. -/
theorem writeMapping_cons (value : Option (List Char))
    (entries : List (List Char × Option (List Char))) :
    writeMapping ((name, value) :: entries) =
      name ++ ':' :: ' ' :: (writeOptional value ++ writeMapping entries) := by
  simp [writeMapping]

/-- The **entries** of an open block are read to its end. -/
theorem readWithin_entries {entries : List (List Char × Option (List Char))}
    (hnames : ∀ entry ∈ entries, IsKey entry.1)
    (hs : skip s = atLine (writeMapping entries) line [0] tokens) :
    readWithin (n + 1 + 3 * entries.length) s =
      some (tokens.reverse ++ entries.flatMap entryTokens ++ [.blockEnd]) := by
  induction entries generalizing s line tokens with
  | nil =>
    rw [List.length_nil, readWithin, hs]
    change some (Token.blockEnd :: tokens).reverse = _
    simp
  | cons entry entries ih =>
    obtain ⟨name, value⟩ := entry
    obtain ⟨hname, hnames⟩ := List.forall_mem_cons.1 hnames
    rw [writeMapping_cons] at hs
    obtain ⟨s', line', hread, hskip⟩ :=
      readWithin_entry hname value (beginsKey_writeMapping hnames) (.inr rfl) hs
    rw [List.length_cons, Nat.mul_add, ← Nat.add_assoc, hread, ih hnames hskip]
    simp [opening]

/-- The **tokens of a mapping** with an entry at least. -/
theorem readWithin_writeMapping {entries : List (List Char × Option (List Char))}
    (hnames : ∀ entry ∈ entries, IsKey entry.1) (hne : entries ≠ []) :
    readWithin (n + 1 + 3 * entries.length) { rest := writeMapping entries } =
      some (.blockMapping :: entries.flatMap entryTokens ++ [.blockEnd]) := by
  obtain ⟨⟨name, value⟩, entries, rfl⟩ := List.exists_cons_of_ne_nil hne
  have hs : skip { rest := writeMapping ((name, value) :: entries) } =
      atLine (writeMapping ((name, value) :: entries)) 0 [] [] :=
    skip_eq_self (beginsKey_writeMapping hnames).beginsToken
  obtain ⟨hname, hnames⟩ := List.forall_mem_cons.1 hnames
  rw [writeMapping_cons] at hs ⊢
  obtain ⟨s', line', hread, hskip⟩ :=
    readWithin_entry hname value (beginsKey_writeMapping hnames) (.inl rfl) hs
  rw [List.length_cons, Nat.mul_add, ← Nat.add_assoc, hread, readWithin_entries hnames hskip]
  simp [opening]

/-- An entry takes **three characters** at least. -/
theorem length_writeMapping {entries : List (List Char × Option (List Char))}
    (hnames : ∀ entry ∈ entries, IsKey entry.1) :
    3 * entries.length ≤ (writeMapping entries).length := by
  induction entries with
  | nil => exact Nat.le_refl 0
  | cons entry entries ih =>
    obtain ⟨name, value⟩ := entry
    obtain ⟨hname, hnames⟩ := List.forall_mem_cons.1 hnames
    have hlength : 0 < name.length := List.length_pos_iff.2 hname.ne_nil
    have hothers := ih hnames
    rw [writeMapping_cons]
    simp only [List.length_append, List.length_cons]
    omega

end Lexer

/-- The **tokens of a mapping** that was written, with an entry at least. -/
theorem tokens?_writeMapping {entries : List (List Char × Option (List Char))}
    (hnames : ∀ entry ∈ entries, IsKey entry.1) (hne : entries ≠ []) :
    tokens? (writeMapping entries) =
      some (.blockMapping :: entries.flatMap Lexer.entryTokens ++ [.blockEnd]) := by
  have hplain : ∀ c ∈ writeMapping entries, isPlainChar c = true :=
    List.all_eq_true.1 (all_writeMapping hnames)
  have hreadable : (writeMapping entries).all isReadable = true :=
    List.all_eq_true.2 fun c hc => isReadable_of_isPlainChar (hplain c hc)
  obtain ⟨n, hn⟩ := Nat.exists_eq_add_of_le' (Lexer.length_writeMapping hnames)
  rw [tokens?, if_pos hreadable, prepared_eq_self hplain, hn, Nat.add_right_comm,
    Lexer.readWithin_writeMapping hnames hne]

end Scaffold.Yaml
