import Scaffold.Proofs.Source.Progress

/-!
# Lexemes

The smallest pieces that a source is put together from: names, marks, brackets, lifetimes,
quotations and the characters between them. A lexeme is cut off the front of a source as the
token that it spells, provided that what follows does not run into it. Which lexemes may follow
each other is decided by looking at the two alone.

## Main definitions

* `Lexeme` - the lexemes, with their `text` and `tokens`.
* `Lexeme.precedes` - whether one lexeme may stand directly in front of another.

## Main results

* `Lexeme.admits_text` - a lexeme is kept apart from the next by `precedes`.
* `Lexeme.lexes`, `Lexeme.lexes_inv` - a lexeme is cut off as its own tokens.
-/

namespace Scaffold.Source

open Text (startsIdentifier continuesIdentifier)

/-! ### Lexemes -/

/-- A **lexeme**. -/
inductive Lexeme where
  /-- A character between tokens. -/
  | blank (c : Char)
  | word (n : Name)
  | lifetime (n : Name)
  | mark (c : Char) (joint : Bool)
  | opening (d : Delimiter)
  | closing (d : Delimiter)
  | quoted (text : List Char)

namespace Lexeme

/-- A lexeme as it is spelled. -/
def text (l : Lexeme) : List Char :=
  match l with
  | .blank c => [c]
  | .word n => n.spelling
  | .lifetime n => '\'' :: n.spelling
  | .mark c _ => [c]
  | .opening d => [d.opener]
  | .closing d => [d.closer]
  | .quoted text => Text.quoteChars text

/-- The tokens that a lexeme stands for. -/
def tokens (l : Lexeme) : List Token :=
  match l with
  | .blank _ => []
  | .word n => [.name n]
  | .lifetime n => [.lifetime n]
  | .mark c joint => [.mark c joint]
  | .opening d => [.opening d]
  | .closing d => [.closing d]
  | .quoted text => [.literal (.quoted text)]

/-- Whether a lexeme is what it claims to be. Slashes and apostrophes are no marks here, since
they may begin something else. -/
def isSound (l : Lexeme) : Bool :=
  match l with
  | .blank c => isSeparator c && c ≠ '/'
  | .word n => n.isSpelled
  | .lifetime n => n.isSpelled
  | .mark c _ => marks.contains c && c ≠ '/' && c ≠ '\''
  | _ => true

/-- What may follow a lexeme directly. -/
def Admits (l : Lexeme) (cs : List Char) : Prop :=
  match l with
  | .word _ => endsName cs
  | .lifetime _ => endsName cs
  | .mark _ joint => startsMark cs = joint
  | .quoted _ => ∀ c ∈ cs.head?, startsIdentifier c = false
  | _ => True

/-- Whether one lexeme may stand **directly in front of another**. -/
def precedes (l next : Lexeme) : Bool :=
  match l, next with
  | .word _, .word _ => false
  | .word _, .lifetime _ => false
  | .word _, .quoted _ => false
  | .word _, .mark c _ => c ≠ '#'
  | .lifetime _, .word _ => false
  | .lifetime _, .lifetime _ => false
  | .lifetime _, .quoted _ => false
  | .lifetime _, .mark c _ => c ≠ '#'
  | .quoted _, .word _ => false
  | .mark _ joint, .mark _ _ => joint
  | .mark _ joint, .lifetime _ => joint
  | .mark _ joint, _ => !joint
  | _, _ => true

/-- Whether a lexeme may stand at the end. -/
def isLast (l : Lexeme) : Bool :=
  match l with
  | .mark _ joint => !joint
  | _ => true

/-- Nothing follows the last lexeme. -/
theorem admits_nil {l : Lexeme} (h : l.isLast = true) : l.Admits [] := by
  cases l with
  | word n => exact nofun
  | lifetime n => exact nofun
  | quoted text => exact nofun
  | mark c joint =>
      rw [isLast, Bool.not_eq_true'] at h
      rw [Admits, h]
      rfl
  | blank c => trivial
  | opening d => trivial
  | closing d => trivial

end Lexeme

/-! ### A lexeme in front of another -/

/-- Names, lifetimes and quotations end at separators, brackets and marks. -/
theorem endsName_cons {c : Char} {rest : List Char} (hc : continuesIdentifier c = false)
    (hquote : c ≠ '"') (hhash : c ≠ '#') (happ : c ≠ '\'') : endsName (c :: rest) := by
  intro d hd
  obtain rfl := Option.some.inj hd
  exact ⟨hc, hquote, hhash, happ⟩

namespace Lexeme

/-- Whether a lexeme begins with a mark. -/
def isMark (l : Lexeme) : Bool :=
  match l with
  | .mark .. => true
  | .lifetime _ => true
  | _ => false

/-- A lexeme that begins with a mark is one. -/
theorem startsMark_text {l : Lexeme} {rest : List Char} (h : l.isSound = true) :
    startsMark (l.text ++ rest) = l.isMark := by
  cases l with
  | blank c =>
      rw [isSound, Bool.and_eq_true] at h
      exact startsMark_eq_false (marks_contains_eq_false isSeparator (by decide) h.1)
  | word n =>
      obtain ⟨raw, text⟩ := n
      obtain ⟨c, text, rfl, hc, -, -⟩ := Name.isSpelled_inv h
      cases raw with
      | false => exact startsMark_eq_false (marks_of_startsIdentifier hc)
      | true => exact startsMark_eq_false (by decide)
  | lifetime n => rfl
  | mark c joint =>
      simp only [isSound, Bool.and_eq_true, decide_eq_true_eq] at h
      obtain ⟨⟨hmem, hslash⟩, -⟩ := h
      have hcomment : startsComment (c :: rest) = false := by
        unfold startsComment
        split
        · next heq => exact absurd (List.cons.inj heq).1 hslash
        · next heq => exact absurd (List.cons.inj heq).1 hslash
        · rfl
      rw [text, List.singleton_append, startsMark, hcomment, List.head?_cons, Option.any_some,
        hmem]
      rfl
  | opening d => cases d <;> exact startsMark_eq_false (by decide)
  | closing d => cases d <;> exact startsMark_eq_false (by decide)
  | quoted text => exact startsMark_eq_false (by decide)

/-- What may follow a name ends it. -/
theorem endsName_text {n : Name} {l : Lexeme} {rest : List Char} (h : l.isSound = true)
    (hp : (word n).precedes l = true) : endsName (l.text ++ rest) := by
  cases l with
  | blank c =>
      rw [isSound, Bool.and_eq_true] at h
      apply endsName_cons (continuesIdentifier_eq_false_of_isSeparator h.1)
      · rintro rfl
        exact absurd h.1 (by decide)
      · rintro rfl
        exact absurd h.1 (by decide)
      · rintro rfl
        exact absurd h.1 (by decide)
  | word n => cases hp
  | lifetime n => cases hp
  | mark c joint =>
      simp only [isSound, Bool.and_eq_true, decide_eq_true_eq] at h
      obtain ⟨⟨hmem, -⟩, happ⟩ := h
      have hnot : continuesIdentifier c = false := by
        rw [← Bool.not_eq_true]
        intro hc
        rw [marks_contains_eq_false continuesIdentifier (by decide) hc] at hmem
        cases hmem
      refine endsName_cons hnot ?_ (of_decide_eq_true hp) happ
      rintro rfl
      exact absurd hmem (by decide)
  | opening d => cases d <;> exact endsName_cons (by decide) (by decide) (by decide) (by decide)
  | closing d => cases d <;> exact endsName_cons (by decide) (by decide) (by decide) (by decide)
  | quoted text => cases hp

/-- What may follow a quotation is no suffix of it. -/
theorem startsIdentifier_text {value : List Char} {l : Lexeme} {rest : List Char}
    (h : l.isSound = true) (hp : (quoted value).precedes l = true) :
    ∀ c ∈ (l.text ++ rest).head?, startsIdentifier c = false := by
  intro c hc
  cases l with
  | blank d =>
      rw [isSound, Bool.and_eq_true] at h
      obtain rfl := Option.some.inj hc
      exact startsIdentifier_eq_false_of_isSeparator h.1
  | word n => cases hp
  | lifetime n =>
      obtain rfl := Option.some.inj hc
      decide
  | mark d joint =>
      simp only [isSound, Bool.and_eq_true] at h
      obtain rfl := Option.some.inj hc
      rw [← Bool.not_eq_true]
      intro hstart
      rw [marks_of_startsIdentifier hstart] at h
      cases h.1.1
  | opening d => cases d <;> (obtain rfl := Option.some.inj hc; decide)
  | closing d => cases d <;> (obtain rfl := Option.some.inj hc; decide)
  | quoted text =>
      obtain rfl := Option.some.inj hc
      decide

/-- A lexeme is **kept apart from the next** one. -/
theorem admits_text {l next : Lexeme} {rest : List Char} (h : next.isSound = true)
    (hp : l.precedes next = true) : l.Admits (next.text ++ rest) := by
  cases l with
  | word n => exact endsName_text h hp
  | lifetime n =>
      apply endsName_text (n := n) h
      cases next <;> exact hp
  | mark c joint =>
      rw [Admits, startsMark_text h]
      cases next <;> cases joint <;> first | rfl | cases hp
  | quoted text => exact startsIdentifier_text h hp
  | blank c => trivial
  | opening d => trivial
  | closing d => trivial

end Lexeme

/-! ### A lexeme cut off -/

/-- A source that begins with a bracket. -/
theorem next?_bracket {c : Char} {t : Token} {rest : List Char} (hc : c ≠ '/')
    (h : bracket? c = some t) : next? (c :: rest) = some ([t], rest) := by
  rw [next?, docComment?_eq_none hc, token?, List.head?_cons, Option.bind_some, h]
  rfl

/-- A character that is neither quote nor digit nor a letter of a prefix begins no literal. -/
theorem read?_eq_none {c : Char} {rest : List Char} (hdigit : c.isDigit = false)
    (hquoted : Literal.quoted? (c :: rest) = none) : Literal.read? (c :: rest) = none := by
  rw [Literal.read?, Literal.kind?, hquoted, Literal.number?, List.head?_cons, Option.any_some,
    hdigit]
  rfl

/-- Brackets are no marks. -/
theorem bracket?_eq_none {c : Char} (h : marks.contains c = true) : bracket? c = none := by
  unfold bracket?
  split
  · exact absurd h (by decide)
  · exact absurd h (by decide)
  · exact absurd h (by decide)
  · exact absurd h (by decide)
  · exact absurd h (by decide)
  · exact absurd h (by decide)
  · rfl

/-- A mark begins no quoted literal. -/
theorem quoted?_mark_eq_none {c : Char} {rest : List Char} (h : marks.contains c = true)
    (happ : c ≠ '\'') : Literal.quoted? (c :: rest) = none := by
  have hne {d : Char} (hd : marks.contains d = false) : (d == c) = false := by
    rw [beq_eq_false_iff_ne]
    rintro rfl
    rw [h] at hd
    cases hd
  have hquote : c ≠ '"' := by
    rintro rfl
    exact absurd h (by decide)
  have hr : ('r' == c) = false := hne (by decide)
  have hb : ('b' == c) = false := hne (by decide)
  have hc : ('c' == c) = false := hne (by decide)
  apply quoted?_eq_none hquote happ
  rw [any_quotePrefixes, map_quotePrefixes]
  simp [List.isPrefixOf, hr, hb, hc]

/-- A mark is cut off as one, and is **joint** if another one follows. -/
theorem next?_mark {c : Char} {rest : List Char} (h : (Lexeme.mark c joint).isSound = true) :
    next? (c :: rest) = some ([.mark c (startsMark rest)], rest) := by
  have hstart : startsMark (c :: rest) = true := Lexeme.startsMark_text h
  simp only [Lexeme.isSound, Bool.and_eq_true, decide_eq_true_eq] at h
  obtain ⟨⟨hmem, hslash⟩, happ⟩ := h
  have hdigit : c.isDigit = false := by
    rw [← Bool.not_eq_true]
    intro hc
    rw [marks_contains_eq_false Char.isDigit (by decide) hc] at hmem
    cases hmem
  rw [next?, docComment?_eq_none hslash, token?, List.head?_cons, Option.bind_some,
    bracket?_eq_none hmem, read?_eq_none hdigit (quoted?_mark_eq_none hmem happ), bare?,
    if_neg happ, if_pos hstart]
  rfl

/-- A name is cut off whole. -/
theorem next?_name {n : Name} {rest : List Char} (h : n.isSpelled = true)
    (hrest : endsName rest) :
    dropSeparator? (n.spelling ++ rest) = none ∧
      next? (n.spelling ++ rest) = some ([.name n], rest) := by
  have hname := name?_spelling h hrest
  obtain ⟨c, more, heq, hc, hplain, -⟩ := Name.spelling_cons h hrest
  rw [heq] at hname ⊢
  constructor
  · apply dropSeparator?_eq_none
    · rintro rfl
      exact absurd hc (by decide)
    · rw [← Bool.not_eq_true]
      intro hsep
      rw [startsIdentifier_eq_false_of_isSeparator hsep] at hc
      cases hc
  · rw [next?_of_startsIdentifier hc hplain, hname, Option.map_some]

/-- A lifetime is cut off whole: its second letter is no apostrophe, so that it is no quoted
character. -/
theorem next?_lifetime {n : Name} {rest : List Char} (h : n.isSpelled = true)
    (hrest : endsName rest) :
    next? ('\'' :: (n.spelling ++ rest)) = some ([.lifetime n], rest) := by
  have hname := name?_spelling h hrest
  obtain ⟨c, more, heq, hc, -, happ⟩ := Name.spelling_cons h hrest
  have hbackslash : c ≠ '\\' := by
    rintro rfl
    exact absurd hc (by decide)
  have hafter : Literal.afterApostrophe? more = none := by
    unfold Literal.afterApostrophe?
    split
    · exact absurd rfl happ
    · rfl
  have hquoted : Literal.quoted? ('\'' :: c :: more) = none := by
    rw [Literal.quoted?_apostrophe hbackslash, hafter, Option.map_none]
  have hlifetime : lifetime? (c :: more) = some (.lifetime n, rest) := by
    have hends : ¬ (rest.head? = some '\'' ∨ (rest.head? = some '#' ∧ !n.raw)) := by
      rintro (hr | ⟨hr, -⟩)
      · exact absurd rfl (hrest '\'' hr).2.2.2
      · exact absurd rfl (hrest '#' hr).2.2.1
    rw [heq] at hname
    rw [lifetime?, hname, Option.bind_some]
    dsimp only
    rw [if_neg hends]
  rw [heq, next?, docComment?_eq_none (by decide), token?, List.head?_cons, Option.bind_some,
    show bracket? '\'' = none from rfl, read?_eq_none (by decide) hquoted, bare?, if_pos rfl,
    hlifetime]
  rfl

/-- A quotation is cut off with the suffix that follows it, as a literal of its text. -/
theorem next?_quoted_suffix {value suffix rest : List Char}
    (hsuffix : Literal.afterSuffix (suffix ++ rest) = rest) :
    next? (Text.quoteChars value ++ (suffix ++ rest)) =
      some ([.literal ⟨.text value, Text.quoteChars value ++ suffix⟩], rest) := by
  have hcons : Text.quoteChars value ++ (suffix ++ rest) =
      '"' :: (value.flatMap Text.escape ++ '"' :: (suffix ++ rest)) := by
    rw [Text.quoteChars, List.append_assoc, List.singleton_append, List.cons_append]
  have hquoted : Literal.quoted? (Text.quoteChars value ++ (suffix ++ rest)) =
      some (.text value, suffix ++ rest) := by
    rw [hcons]
    change (Text.Quoted.read .text _).map (fun x => (LiteralKind.text x.1, x.2)) = _
    rw [Text.Quoted.read_quoted, Option.map_some]
  have hread : Literal.read? (Text.quoteChars value ++ (suffix ++ rest)) =
      some (⟨.text value, Text.quoteChars value ++ suffix⟩, rest) := by
    rw [Literal.read?, Literal.kind?, hquoted]
    simp only [Option.map_some, hsuffix]
    rw [← List.append_assoc, List.length_append, Nat.add_sub_cancel, List.take_left']
    rfl
  have hhead : (Text.quoteChars value ++ (suffix ++ rest)).head?.bind bracket? = none := by
    rw [hcons]
    rfl
  have hdoc : docComment? (Text.quoteChars value ++ (suffix ++ rest)) = none := by
    rw [hcons]
    exact docComment?_eq_none (by decide)
  rw [next?, hdoc, token?, hhead, hread]
  rfl

/-- A quotation is cut off whole, as the literal of its text, where no suffix follows. -/
theorem next?_quoted {value rest : List Char}
    (hrest : ∀ c ∈ rest.head?, startsIdentifier c = false) :
    next? (Text.quoteChars value ++ rest) = some ([.literal (.quoted value)], rest) := by
  have hsuffix : Literal.afterSuffix rest = rest := by
    cases rest with
    | nil => rfl
    | cons c rest => rw [Literal.afterSuffix, hrest c rfl, if_neg Bool.false_ne_true]
  have hnext := @next?_quoted_suffix value [] _ hsuffix
  rwa [List.append_nil] at hnext

/-- A blank is dropped. -/
theorem dropSeparator?_blank {c : Char} (h : (Lexeme.blank c).isSound = true) (rest : List Char) :
    dropSeparator? (c :: rest) = some rest := by
  simp only [Lexeme.isSound, Bool.and_eq_true, decide_eq_true_eq] at h
  obtain ⟨hsep, hslash⟩ := h
  unfold dropSeparator?
  split
  · next heq => exact absurd (List.cons.inj heq).1 hslash
  · next heq => exact absurd (List.cons.inj heq).1 hslash
  · next heq =>
    obtain ⟨rfl, rfl⟩ := List.cons.inj heq
    rw [if_pos hsep]
  · next heq => cases heq

/-- A lexeme is **dropped as a separator or cut off whole**, where what follows does not run into
it. -/
theorem Lexeme.cut {l : Lexeme} {rest : List Char} (h : l.isSound = true)
    (hrest : l.Admits rest) :
    dropSeparator? (l.text ++ rest) = some rest ∧ l.tokens = [] ∨
      dropSeparator? (l.text ++ rest) = none ∧
        next? (l.text ++ rest) = some (l.tokens, rest) := by
  cases l with
  | blank c => exact .inl ⟨dropSeparator?_blank h rest, rfl⟩
  | word n =>
      exact .inr (next?_name h hrest)
  | lifetime n =>
      exact .inr ⟨dropSeparator?_eq_none (by decide) (by decide), next?_lifetime h hrest⟩
  | mark c joint =>
      have hnext : next? (c :: rest) = some ([.mark c joint], rest) :=
        hrest ▸ next?_mark h
      simp only [isSound, Bool.and_eq_true, decide_eq_true_eq] at h
      obtain ⟨⟨hmem, hslash⟩, -⟩ := h
      have hsep : isSeparator c = false := by
        rw [← Bool.not_eq_true]
        intro hc
        rw [marks_contains_eq_false isSeparator (by decide) hc] at hmem
        cases hmem
      exact .inr ⟨dropSeparator?_eq_none hslash hsep, hnext⟩
  | opening d =>
      cases d <;>
        exact .inr ⟨dropSeparator?_eq_none (by decide) (by decide), next?_bracket (by decide) rfl⟩
  | closing d =>
      cases d <;>
        exact .inr ⟨dropSeparator?_eq_none (by decide) (by decide), next?_bracket (by decide) rfl⟩
  | quoted value =>
      exact .inr ⟨dropSeparator?_eq_none (by decide) (by decide), next?_quoted hrest⟩

/-- A lexeme is **cut off as its own tokens**, where what follows does not run into it. -/
theorem Lexeme.lexes {l : Lexeme} {rest : List Char} {ts : List Token} (h : l.isSound = true)
    (hrest : l.Admits rest) (hts : Lexes rest ts) : Lexes (l.text ++ rest) (l.tokens ++ ts) := by
  rcases Lexeme.cut h hrest with ⟨hdrop, htokens⟩ | ⟨hdrop, hnext⟩
  · rw [htokens]
    exact .drop hdrop hts
  · exact .next hdrop hnext (next?_length hnext) hts

/-- What is cut behind a lexeme is **what follows it**. -/
theorem Lexeme.lexes_inv {l : Lexeme} {rest : List Char} {ts : List Token} (h : l.isSound = true)
    (hrest : l.Admits rest) (hts : Lexes (l.text ++ rest) ts) :
    ∃ more, ts = l.tokens ++ more ∧ Lexes rest more := by
  rcases Lexeme.cut h hrest with ⟨hdrop, htokens⟩ | ⟨hdrop, hnext⟩
  · rw [htokens]
    exact ⟨ts, rfl, hts.drop_inv hdrop⟩
  · have hne : l.text ++ rest ≠ [] := by
      intro heq
      rw [heq] at hnext
      cases hnext
    obtain ⟨first, more, ts, hfirst, -, rfl, hmore⟩ := hts.next_inv hne hdrop
    cases hnext.symm.trans hfirst
    exact ⟨ts, rfl, hmore⟩

end Scaffold.Source
