import Scaffold.Source.Token.Lexer
import Scaffold.Proofs.Text.Identifier
import Scaffold.Proofs.Text.Quoted

/-!
# Cutting names off a source

How a source is cut into tokens step by step, and what its first step is where it begins with a
name. A name is taken for nothing else: it begins no comment, no mark and no quoted literal.

## Main definitions

* `Lexes` - a source is cut into tokens, step by step.
* `Name.isSpelled` - whether a name is spelled as one.

## Main results

* `Lexes.tokens?_eq_some` - a source that is cut step by step is cut.
* `quoted?_eq_none` - quoted literals have one of a few beginnings.
* `name?_spelling` - a name is read back from its spelling.
-/

namespace Scaffold.Source

open Text (startsIdentifier continuesIdentifier)

/-! ### Cutting step by step -/

/-- A source is **cut into tokens**: separators are dropped, and every other lexeme gives its
tokens and leaves a shorter source. -/
inductive Lexes : List Char → List Token → Prop where
  | nil : Lexes [] []
  | drop {cs rest : List Char} {ts : List Token} :
      dropSeparator? cs = some rest → Lexes rest ts → Lexes cs ts
  | next {cs rest : List Char} {first ts : List Token} :
      dropSeparator? cs = none → next? cs = some (first, rest) → rest.length < cs.length →
      Lexes rest ts → Lexes cs (first ++ ts)

/-- A source that begins with a separator is cut as what follows the separator. -/
theorem Lexes.drop_inv {cs rest : List Char} {ts : List Token}
    (hdrop : dropSeparator? cs = some rest) (h : Lexes cs ts) : Lexes rest ts := by
  cases h with
  | nil => cases hdrop
  | drop hdrop' h =>
      obtain rfl := Option.some.inj (hdrop.symm.trans hdrop')
      exact h
  | next hdrop' _ _ _ => cases hdrop.symm.trans hdrop'

/-- A source that begins with another lexeme is cut into its tokens and those of the rest. -/
theorem Lexes.next_inv {cs : List Char} {ts : List Token} (hne : cs ≠ [])
    (hdrop : dropSeparator? cs = none) (h : Lexes cs ts) :
    ∃ first rest more, next? cs = some (first, rest) ∧ rest.length < cs.length ∧
      ts = first ++ more ∧ Lexes rest more := by
  cases h with
  | nil => exact absurd rfl hne
  | drop hdrop' _ => cases hdrop.symm.trans hdrop'
  | next _ hnext hshort h => exact ⟨_, _, _, hnext, hshort, rfl, h⟩

/-- The content of a comment is followed by less than the comment and what follows it. -/
theorem blockContent?_length {depth : Nat} {cs : List Char} {x : List Char × List Char}
    (h : blockContent? depth cs = some x) : x.2.length < cs.length := by
  fun_induction blockContent? depth cs generalizing x with
  | case1 depth c d rest hopen ih =>
      obtain ⟨y, hy, rfl⟩ := Option.map_eq_some_iff.1 h
      have := ih hy
      simp only [List.length_cons]
      omega
  | case2 c d rest hopen hclose =>
      cases h
      simp only [List.length_cons]
      omega
  | case3 c d rest hopen hclose depth ih =>
      obtain ⟨y, hy, rfl⟩ := Option.map_eq_some_iff.1 h
      have := ih hy
      simp only [List.length_cons]
      omega
  | case4 depth c d rest hopen hclose ih =>
      obtain ⟨y, hy, rfl⟩ := Option.map_eq_some_iff.1 h
      have := ih hy
      simp only [List.length_cons] at this ⊢
      omega
  | case5 =>
      cases h

/-- A separator has a character at least. -/
theorem dropSeparator?_length {cs rest : List Char} (h : dropSeparator? cs = some rest) :
    rest.length < cs.length := by
  unfold dropSeparator? at h
  split at h
  · next more =>
      split at h
      · cases h
      · cases h
        have := (List.dropWhile_sublist (fun c : Char => decide (c ≠ '\n')) (l := more)).length_le
        simp only [List.length_cons]
        omega
  · next more _ =>
      split at h
      · cases h
      · obtain ⟨x, hx, rfl⟩ := Option.map_eq_some_iff.1 h
        have := blockContent?_length hx
        simp only [List.length_cons]
        omega
  · split at h
    · cases h
      exact Nat.lt_succ_self _
    · cases h
  · cases h

/-- More steps than characters are not needed to skip separators. -/
theorem skipWithin_succ {n : Nat} {cs : List Char} (h : cs.length ≤ n) :
    skipWithin (n + 1) cs = skipWithin n cs := by
  induction n generalizing cs with
  | zero =>
      obtain rfl := List.eq_nil_of_length_eq_zero (Nat.le_zero.1 h)
      rfl
  | succ n ih =>
      rw [skipWithin, skipWithin]
      split
      · next rest hdrop =>
          have := dropSeparator?_length hdrop
          exact ih (by omega)
      · rfl

/-- A source that is cut step by step **is cut**, by any number of steps that is not less than
its length. -/
theorem Lexes.tokensWithin_eq_some {cs : List Char} {ts : List Token} (h : Lexes cs ts) :
    ∀ {n : Nat}, cs.length ≤ n → tokensWithin n cs = some ts := by
  induction h with
  | nil =>
      intro n _
      cases n <;> rfl
  | @drop cs rest ts hdrop _ ih =>
      intro n hn
      have hshort := dropSeparator?_length hdrop
      cases n with
      | zero => omega
      | succ n =>
          have hskip := skipWithin_succ (n := n) (show rest.length ≤ n by omega)
          rw [tokensWithin, skipWithin, hdrop]
          have hrest := ih (n := n + 1) (by omega)
          rw [tokensWithin, hskip] at hrest
          exact hrest
  | @next cs rest first ts hdrop hnext hshort _ ih =>
      intro n hn
      cases n with
      | zero => omega
      | succ n =>
          have hrest := ih (n := n) (by omega)
          have hskip : skipWithin (n + 1) cs = cs := by rw [skipWithin, hdrop]
          rw [tokensWithin, hskip]
          split
          · simp at hshort
          · rw [hnext, Option.bind_some]
            dsimp only
            rw [hrest, Option.map_some]

/-- A source that is cut step by step is cut. -/
theorem Lexes.tokens?_eq_some {cs : List Char} {ts : List Token} (h : Lexes cs ts) :
    tokens? cs = some ts :=
  h.tokensWithin_eq_some Nat.le.refl

/-! ### Names -/

/-- Whether a name is spelled as one: a character that starts an identifier, and others that
continue it, and no mark where none may stand. -/
def Name.isSpelled (n : Name) : Bool :=
  match n.text with
  | [] => false
  | c :: rest =>
    startsIdentifier c && rest.all continuesIdentifier
      && !(n.raw && Name.unmarkable.contains (String.ofList n.text))

/-- What may follow a name: nothing that continues it, nor a quote or hash that would make it
the beginning of something else. -/
def endsName (cs : List Char) : Prop :=
  ∀ c ∈ cs.head?, continuesIdentifier c = false ∧ c ≠ '"' ∧ c ≠ '#' ∧ c ≠ '\''

/-- What stands behind the first letter of a name can be neither quote nor hash, and is not
either behind an `r` that follows the first letter. -/
structure IsTail (cs : List Char) : Prop where
  head : ∀ c ∈ cs.head?, c ≠ '"' ∧ c ≠ '#' ∧ c ≠ '\''
  second : ∀ rest, cs = 'r' :: rest → ∀ c ∈ rest.head?, c ≠ '"' ∧ c ≠ '#' ∧ c ≠ '\''

/-- A character of a name is neither quote nor hash. -/
theorem ne_of_continuesIdentifier {c : Char} (h : continuesIdentifier c = true) :
    c ≠ '"' ∧ c ≠ '#' ∧ c ≠ '\'' := by
  refine ⟨?_, ?_, ?_⟩ <;> rintro rfl <;> revert h <;> decide

/-- The letters of a name, and what ends it, begin with neither quote nor hash. -/
theorem head?_append {text rest : List Char} (htext : text.all continuesIdentifier = true)
    (hrest : endsName rest) : ∀ c ∈ (text ++ rest).head?, c ≠ '"' ∧ c ≠ '#' ∧ c ≠ '\'' := by
  intro c hc
  cases text with
  | nil => exact (hrest c hc).2
  | cons d text =>
      rw [List.all_cons, Bool.and_eq_true] at htext
      cases hc
      exact ne_of_continuesIdentifier htext.1

/-- The letters behind the first one are the tail of a name. -/
theorem IsTail.of_all {text rest : List Char} (htext : text.all continuesIdentifier = true)
    (hrest : endsName rest) : IsTail (text ++ rest) where
  head := head?_append htext hrest
  second := by
    intro more h c hc
    cases text with
    | nil =>
        have hr := (hrest 'r' (by rw [List.nil_append] at h; rw [h]; rfl)).1
        exact absurd hr (by decide)
    | cons d text =>
        rw [List.all_cons, Bool.and_eq_true] at htext
        obtain ⟨-, rfl⟩ := List.cons.inj h
        exact head?_append htext.2 hrest c hc

/-- The letters of a name are cut off to its end. -/
theorem word?_append {c : Char} {text rest : List Char} (hc : startsIdentifier c = true)
    (htext : text.all continuesIdentifier = true) (hrest : endsName rest) :
    word? (c :: text ++ rest) = some (c :: text, rest) := by
  have hstop : rest.takeWhile continuesIdentifier = [] ∧
      rest.dropWhile continuesIdentifier = rest := by
    cases rest with
    | nil => exact ⟨rfl, rfl⟩
    | cons d rest =>
        have hd := (hrest d rfl).1
        simp [hd]
  rw [List.cons_append, word?, if_pos hc,
    List.takeWhile_append_of_pos (List.all_eq_true.1 htext),
    List.dropWhile_append_of_pos (List.all_eq_true.1 htext), hstop.1, hstop.2, List.append_nil]

/-- A raw quotation begins with a quote behind its hashes. -/
theorem raw?_eq_none {rules : Text.Quoted.Rules} {cs : List Char}
    (h : (cs.dropWhile (· = '#')).head? ≠ some '"') : Literal.raw? rules cs = none := by
  unfold Literal.raw?
  dsimp only
  split
  · next rest hrest =>
      rw [hrest] at h
      exact absurd rfl h
  · rfl

/-- Behind hashes, if there are any, there is a quote only where a raw quotation begins. -/
theorem raw?_eq_none_of_isPrefixOf {rules : Text.Quoted.Rules} {cs : List Char}
    (hquote : ['"'].isPrefixOf cs = false) (hone : ['#', '"'].isPrefixOf cs = false)
    (hmore : ['#', '#'].isPrefixOf cs = false) : Literal.raw? rules cs = none := by
  apply raw?_eq_none
  rcases cs with _ | ⟨c, _ | ⟨d, rest⟩⟩
  · exact nofun
  · simp only [List.isPrefixOf, Bool.and_true, beq_eq_false_iff_ne] at hquote
    by_cases hc : c = '#' <;> simp [hc, Ne.symm hquote]
  · simp only [List.isPrefixOf, Bool.and_true, beq_eq_false_iff_ne] at hquote
    by_cases hc : c = '#'
    · subst hc
      simp only [List.isPrefixOf, beq_self_eq_true, Bool.and_true, Bool.true_and,
        beq_eq_false_iff_ne] at hone hmore
      simp [Ne.symm hmore, Ne.symm hone]
    · simp [hc, Ne.symm hquote]

/-- Where a single hash does not stand, two characters of which it is the first do not either. -/
theorem isPrefixOf_hash {c : Char} {cs : List Char} (h : ['#'].isPrefixOf cs = false) :
    ['#', c].isPrefixOf cs = false := by
  rcases cs with _ | ⟨d, cs⟩
  · rfl
  · rw [List.isPrefixOf, List.isPrefixOf, Bool.and_true] at h
    rw [List.isPrefixOf, h, Bool.false_and]

namespace Literal

/-- What follows a single character, spelled out or as an escape. -/
def afterCharacter? (rules : Text.Quoted.Rules) (cs : List Char) : Option (List Char) :=
  match cs with
  | [] => none
  | '\\' :: rest => (Text.Quoted.readEscape rules rest).map (·.2)
  | c :: rest => if rules.admits c then some rest else none

/-- What follows an apostrophe. -/
def afterApostrophe? (cs : List Char) : Option (List Char) :=
  match cs with
  | '\'' :: rest => some rest
  | _ => none

/-- A quoted character is a single one and an apostrophe. -/
theorem single?_eq (rules : Text.Quoted.Rules) (cs : List Char) :
    single? rules cs = (afterCharacter? rules cs).bind afterApostrophe? := by
  unfold single?
  dsimp only
  split
  · next rest heq =>
    have hafter : afterCharacter? rules cs = some ('\'' :: rest) := heq
    rw [hafter]
    rfl
  · next hopen =>
    rcases hafter : afterCharacter? rules cs with _ | _ | ⟨c, rest⟩
    · rfl
    · rfl
    · have hc : c ≠ '\'' := by
        rintro rfl
        exact hopen rest hafter
      simp [afterApostrophe?, hc]

/-- A quoted character that is no escape is it and an apostrophe. -/
theorem quoted?_apostrophe {c : Char} (hc : c ≠ '\\') (rest : List Char) :
    quoted? ('\'' :: c :: rest) = (afterApostrophe? rest).map fun rest => (.character, rest) := by
  have hcharacter : afterCharacter? .text (c :: rest) = some rest := by
    unfold afterCharacter?
    split
    · next heq => cases heq
    · next heq => exact absurd (List.cons.inj heq).1 hc
    · next heq =>
        cases heq
        rfl
  change (single? .text (c :: rest)).map _ = _
  rw [single?_eq, hcharacter, Option.bind_some]

end Literal

/-- The beginnings that are kept for quoted literals, letter by letter. -/
theorem map_quotePrefixes : quotePrefixes.map String.toList =
    [['r', '"'], ['r', '#', '"'], ['r', '#', '#'], ['b', '"'], ['b', '\''], ['b', 'r', '"'],
      ['b', 'r', '#'], ['c', '"'], ['c', 'r', '"'], ['c', 'r', '#']] := by
  rfl

/-- A source has one of these beginnings if one of the lists is a prefix of it. -/
theorem any_quotePrefixes (cs : List Char) :
    quotePrefixes.any (·.toList.isPrefixOf cs) =
      (quotePrefixes.map String.toList).any (List.isPrefixOf · cs) := by
  rw [List.any_map]
  rfl

/-- Where neither a quote stands nor one of these beginnings, there is **no quoted literal**. -/
theorem quoted?_eq_none {c : Char} {rest : List Char} (hquote : c ≠ '"') (happ : c ≠ '\'')
    (h : quotePrefixes.any (·.toList.isPrefixOf (c :: rest)) = false) :
    Literal.quoted? (c :: rest) = none := by
  rw [any_quotePrefixes, map_quotePrefixes] at h
  simp only [List.any_cons, List.any_nil, Bool.or_false, Bool.or_eq_false_iff] at h
  obtain ⟨hr, hrHash, hrHashes, hb, hbyte, hbr, hbrHash, hc, hcr, hcrHash⟩ := h
  unfold Literal.quoted?
  split
  · next heq => exact absurd (List.cons.inj heq).1 hquote
  · next heq =>
      cases heq
      cases hb
  · next heq =>
      cases heq
      cases hc
  · next heq =>
      cases heq
      rw [raw?_eq_none_of_isPrefixOf hbr (isPrefixOf_hash hbrHash) (isPrefixOf_hash hbrHash),
        Option.map_none]
  · next heq =>
      cases heq
      rw [raw?_eq_none_of_isPrefixOf hcr (isPrefixOf_hash hcrHash) (isPrefixOf_hash hcrHash),
        Option.map_none]
  · next heq =>
      cases heq
      rw [raw?_eq_none_of_isPrefixOf hr hrHash hrHashes, Option.map_none]
  · next heq =>
      cases heq
      cases hbyte
  · next heq => exact absurd (List.cons.inj heq).1 happ
  · rfl

/-- No name has a beginning that is kept for quoted literals. -/
theorem any_quotePrefixes_eq_false {c : Char} {rest : List Char} (hrest : IsTail rest) :
    quotePrefixes.any (·.toList.isPrefixOf (c :: rest)) = false := by
  rw [any_quotePrefixes, map_quotePrefixes]
  cases rest with
  | nil =>
      simp [List.isPrefixOf]
  | cons d rest =>
      obtain ⟨hquote, hhash, happ⟩ := hrest.head d rfl
      have hquote' : ('"' == d) = false := by simpa using Ne.symm hquote
      have hhash' : ('#' == d) = false := by simpa using Ne.symm hhash
      have happ' : ('\'' == d) = false := by simpa using Ne.symm happ
      by_cases hd : d = 'r'
      · subst hd
        cases rest with
        | nil =>
            simp [List.isPrefixOf]
        | cons e rest =>
            obtain ⟨hquote, hhash, -⟩ := hrest.second (e :: rest) rfl e rfl
            have hquote' : ('"' == e) = false := by simpa using Ne.symm hquote
            have hhash' : ('#' == e) = false := by simpa using Ne.symm hhash
            simp [List.isPrefixOf, hquote', hhash']
      · have hd' : ('r' == d) = false := by simpa using Ne.symm hd
        simp [List.isPrefixOf, hquote', hhash', happ', hd']

/-- Nor has a raw name. -/
theorem any_quotePrefixes_raw {c : Char} {rest : List Char} (hc : startsIdentifier c = true) :
    quotePrefixes.any (·.toList.isPrefixOf ('r' :: '#' :: c :: rest)) = false := by
  have hquote : ('"' == c) = false := by
    rw [beq_eq_false_iff_ne]
    rintro rfl
    exact absurd hc (by decide)
  have hhash : ('#' == c) = false := by
    rw [beq_eq_false_iff_ne]
    rintro rfl
    exact absurd hc (by decide)
  rw [any_quotePrefixes, map_quotePrefixes]
  simp [List.isPrefixOf, hquote, hhash]

/-! ### The first character of a lexeme -/

/-- A comment begins with a slash. -/
theorem docComment?_eq_none {c : Char} {rest : List Char} (h : c ≠ '/') :
    docComment? (c :: rest) = none := by
  unfold docComment?
  dsimp only
  split
  · next heq => exact absurd (List.cons.inj heq).1 h
  · next heq => exact absurd (List.cons.inj heq).1 h
  · rfl

/-- A separator is a blank, a mark of direction or a comment. -/
theorem dropSeparator?_eq_none {c : Char} {rest : List Char} (h : c ≠ '/')
    (hc : isSeparator c = false) : dropSeparator? (c :: rest) = none := by
  unfold dropSeparator?
  split
  · next heq => exact absurd (List.cons.inj heq).1 h
  · next heq => exact absurd (List.cons.inj heq).1 h
  · next heq =>
      obtain ⟨rfl, -⟩ := List.cons.inj heq
      rw [if_neg (by rw [hc]; exact Bool.false_ne_true)]
  · rfl

/-- No separator starts an identifier. -/
theorem startsIdentifier_eq_false_of_isSeparator {c : Char} (h : isSeparator c = true) :
    startsIdentifier c = false := by
  simp only [isSeparator, Bool.or_eq_true, decide_eq_true_eq] at h
  rcases h with (h | rfl) | rfl
  · exact Text.startsIdentifier_eq_false_of_isBlank h
  · decide +kernel
  · decide +kernel

/-- No separator continues an identifier. -/
theorem continuesIdentifier_eq_false_of_isSeparator {c : Char} (h : isSeparator c = true) :
    continuesIdentifier c = false := by
  simp only [isSeparator, Bool.or_eq_true, decide_eq_true_eq] at h
  rcases h with (h | rfl) | rfl
  · exact Text.continuesIdentifier_eq_false_of_isBlank h
  · decide +kernel
  · decide +kernel

/-- A source that begins with another character begins with no mark. -/
theorem startsMark_eq_false {c : Char} {rest : List Char} (h : marks.contains c = false) :
    startsMark (c :: rest) = false := by
  rw [startsMark, List.head?_cons, Option.any_some, h, Bool.and_false]

/-- A character that no mark has in common with a test is no mark. -/
theorem marks_contains_eq_false {c : Char} (test : Char → Bool)
    (hall : marks.all (fun c => !test c) = true) (h : test c = true) :
    marks.contains c = false := by
  rw [← Bool.not_eq_true, List.contains_iff_mem]
  intro hmem
  have := List.all_eq_true.1 hall c hmem
  rw [h] at this
  cases this

/-- A mark starts no identifier. -/
theorem marks_of_startsIdentifier {c : Char} (h : startsIdentifier c = true) :
    marks.contains c = false :=
  marks_contains_eq_false startsIdentifier (by decide) h

/-- A character that **starts an identifier** starts nothing else but quoted literals. -/
theorem next?_of_startsIdentifier {c : Char} {rest : List Char} (hc : startsIdentifier c = true)
    (hplain : quotePrefixes.any (·.toList.isPrefixOf (c :: rest)) = false) :
    next? (c :: rest) = (name? (c :: rest)).map fun x => ([.name x.1], x.2) := by
  have hslash : c ≠ '/' := by
    rintro rfl
    exact absurd hc (by decide)
  have hquote : c ≠ '"' := by
    rintro rfl
    exact absurd hc (by decide)
  have happ : c ≠ '\'' := by
    rintro rfl
    exact absurd hc (by decide)
  have hbracket : bracket? c = none := by
    unfold bracket?
    split
    · exact absurd hc (by decide)
    · exact absurd hc (by decide)
    · exact absurd hc (by decide)
    · exact absurd hc (by decide)
    · exact absurd hc (by decide)
    · exact absurd hc (by decide)
    · rfl
  have hnumber : Literal.number? (c :: rest) = none := by
    rw [Literal.number?, List.head?_cons, Option.any_some,
      Text.isDigit_eq_false_of_startsIdentifier hc]
    rfl
  rw [next?, docComment?_eq_none hslash, token?, List.head?_cons, Option.bind_some, hbracket,
    Literal.read?, Literal.kind?, quoted?_eq_none hquote happ hplain, hnumber, bare?, if_neg happ,
    startsMark_eq_false (marks_of_startsIdentifier hc), hplain]
  simp only [Option.map_none, Bool.false_eq_true, if_false, Option.map_map]
  rfl

/-! ### Names cut off -/

/-- The letters of a name that is spelled as one. -/
theorem Name.isSpelled_inv {n : Name} (h : n.isSpelled = true) :
    ∃ c text, n.text = c :: text ∧ startsIdentifier c = true ∧
      text.all continuesIdentifier = true ∧
      (n.raw = true → Name.unmarkable.contains (String.ofList n.text) = false) := by
  unfold Name.isSpelled at h
  split at h
  · cases h
  · next c text htext =>
      rw [Bool.and_eq_true, Bool.and_eq_true, Bool.not_eq_true', Bool.and_eq_false_iff] at h
      obtain ⟨⟨hc, hall⟩, hraw⟩ := h
      refine ⟨c, text, htext, hc, hall, fun h => ?_⟩
      rcases hraw with hraw | hraw
      · rw [hraw] at h
        cases h
      · exact hraw

/-- The characters with which a name is spelled. -/
theorem Name.mem_spelling {n : Name} {c : Char} (h : n.isSpelled = true) (hc : c ∈ n.spelling) :
    startsIdentifier c = true ∨ continuesIdentifier c = true ∨ c = '#' := by
  obtain ⟨raw, text⟩ := n
  obtain ⟨d, text, rfl, hd, htext, -⟩ := Name.isSpelled_inv h
  have hletter (hc : c ∈ d :: text) : startsIdentifier c = true ∨ continuesIdentifier c = true := by
    rcases List.mem_cons.1 hc with rfl | hc
    · exact .inl hd
    · exact .inr (List.all_eq_true.1 htext c hc)
  cases raw with
  | false =>
      rcases hletter hc with h | h
      · exact .inl h
      · exact .inr (.inl h)
  | true =>
      rcases List.mem_cons.1 hc with rfl | hc
      · exact .inl (by decide)
      rcases List.mem_cons.1 hc with rfl | hc
      · exact .inr (.inr rfl)
      rcases hletter hc with h | h
      · exact .inl h
      · exact .inr (.inl h)

/-- A name has no colons. -/
theorem Name.colon_notMem {n : Name} (h : n.isSpelled = true) : ':' ∉ n.spelling := by
  intro hc
  rcases Name.mem_spelling h hc with h | h | h
  · exact absurd h (by decide)
  · exact absurd h (by decide)
  · exact absurd h (by decide)

/-- A name has no blanks. -/
theorem Name.isBlank_eq_false {n : Name} (h : n.isSpelled = true) :
    ∀ c ∈ n.spelling, Text.isBlank c = false := by
  intro c hc
  rw [← Bool.not_eq_true]
  intro hblank
  rcases Name.mem_spelling h hc with h | h | rfl
  · rw [Text.startsIdentifier_eq_false_of_isBlank hblank] at h
    cases h
  · rw [Text.continuesIdentifier_eq_false_of_isBlank hblank] at h
    cases h
  · exact absurd hblank (by decide)

/-- A name is not empty. -/
theorem Name.spelling_ne_nil {n : Name} (h : n.isSpelled = true) : n.spelling ≠ [] := by
  obtain ⟨raw, text⟩ := n
  obtain ⟨c, text, rfl, -, -, -⟩ := Name.isSpelled_inv h
  cases raw <;> exact List.cons_ne_nil _ _

/-- A name is **read back from its spelling**. -/
theorem name?_spelling {n : Name} {rest : List Char} (h : n.isSpelled = true)
    (hrest : endsName rest) : name? (n.spelling ++ rest) = some (n, rest) := by
  obtain ⟨raw, text⟩ := n
  obtain ⟨c, text, rfl, hc, htext, hraw⟩ := Name.isSpelled_inv h
  have hword := word?_append hc htext hrest
  cases raw with
  | false =>
      have hplain : name? (c :: text ++ rest) =
          (word? (c :: text ++ rest)).map fun x => (⟨false, x.1⟩, x.2) := by
        have htail := IsTail.of_all htext hrest
        unfold name?
        split
        · next heq =>
            have hrest : text ++ rest = '#' :: _ := (List.cons.inj heq).2
            rw [hrest] at htail
            exact absurd rfl (htail.head '#' rfl).2.1
        · rfl
      rw [show Name.spelling ⟨false, c :: text⟩ = c :: text from rfl, hplain, hword]
      rfl
  | true =>
      rw [show Name.spelling ⟨true, c :: text⟩ ++ rest = 'r' :: '#' :: (c :: text ++ rest) from rfl]
      rw [name?, hword, Option.bind_some]
      dsimp only
      rw [hraw rfl]
      rfl

/-- The first letter of a spelled name, which begins nothing but the name. -/
theorem Name.spelling_cons {n : Name} {rest : List Char} (h : n.isSpelled = true)
    (hrest : endsName rest) :
    ∃ c more, n.spelling ++ rest = c :: more ∧ startsIdentifier c = true ∧
      quotePrefixes.any (·.toList.isPrefixOf (c :: more)) = false ∧
      more.head? ≠ some '\'' := by
  obtain ⟨raw, text⟩ := n
  obtain ⟨c, text, rfl, hc, htext, -⟩ := Name.isSpelled_inv h
  cases raw with
  | false =>
      have htail := IsTail.of_all htext hrest
      refine ⟨c, text ++ rest, rfl, hc, any_quotePrefixes_eq_false htail, fun heq => ?_⟩
      exact absurd rfl (htail.head '\'' heq).2.2
  | true =>
      exact ⟨'r', '#' :: (c :: text ++ rest), rfl, by decide, any_quotePrefixes_raw hc, by simp⟩

end Scaffold.Source
