import Scaffold.Proofs.Layout
import Scaffold.Proofs.Source.Lexeme

/-!
# Laid out lexemes

A document whose texts are lexemes is cut into the tokens of these lexemes, wherever its lines
end. Only the commas that gaps may put are not determined; they are tokens of their own.

That no lexeme runs into the next is checked on the lexemes, without looking at the letters of
names: gaps may vanish, so that what stands on both sides of a gap has to be kept apart too.

## Main definitions

* `Piece` - the lexemes of a text, or a gap.
* `Spells` - the tokens that pieces may stand for.
* `joined` - no lexeme of the pieces runs into the next.

## Main results

* `lexes_of_prints` - however pieces are laid out, they are cut into tokens that they stand for.
-/

namespace Scaffold.Source

open Layout (Atom Prints)

/-- The **lexemes of a text, or a gap** between texts. -/
inductive Piece where
  | text (ls : List Lexeme)
  | gap (comma : Bool)

namespace Piece

/-- A piece as a text or gap of a document. -/
def atom (p : Piece) : Atom :=
  match p with
  | .text ls => .text (ls.flatMap Lexeme.text)
  | .gap comma => .gap comma

/-- The text of a piece of which gaps are left out. -/
def spelling (p : Piece) : List Char :=
  match p with
  | .text ls => ls.flatMap Lexeme.text
  | .gap _ => []

/-- Whether the lexemes of a piece are what they claim to be. -/
def isSound (p : Piece) : Bool :=
  match p with
  | .text ls => ls.all Lexeme.isSound
  | .gap _ => true

/-- The **tokens that pieces may stand for**. A comma of a gap may be left out. -/
inductive Spells : List Piece → List Token → Prop where
  | nil : Spells [] []
  | text {ls : List Lexeme} {ps : List Piece} {ts : List Token} :
      Spells ps ts → Spells (.text ls :: ps) (ls.flatMap Lexeme.tokens ++ ts)
  | gap {comma : Bool} {ps : List Piece} {ts : List Token} :
      Spells ps ts → Spells (.gap comma :: ps) ts
  | comma {ps : List Piece} {ts : List Token} :
      Spells ps ts → Spells (.gap true :: ps) (.mark ',' false :: ts)

/-! ### Neighbours -/

/-- Whether no lexeme runs into the next, from behind a given one. -/
def chained (before : Lexeme) (ls : List Lexeme) : Bool :=
  match ls with
  | [] => true
  | l :: rest => before.precedes l && chained l rest

/-- The last of some lexemes. -/
def last (before : Lexeme) (ls : List Lexeme) : Lexeme :=
  match ls with
  | [] => before
  | l :: rest => last l rest

/-- A blank, as it may stand in a gap. -/
def blank : Lexeme :=
  .blank ' '

/-- A comma, as a gap may put it in front of the end of a line. -/
def comma : Lexeme :=
  .mark ',' false

/-- Whether **no lexeme runs into the next**, whether a gap between them vanishes or not. -/
def joined (before : Lexeme) (ps : List Piece) : Bool :=
  match ps with
  | [] => true
  | .text ls :: rest => chained before ls && joined (last before ls) rest
  | .gap mayComma :: rest =>
    before.precedes blank && (!mayComma || before.precedes comma) && joined before rest

/-- The last lexeme of pieces. -/
def ending (before : Lexeme) (ps : List Piece) : Lexeme :=
  match ps with
  | [] => before
  | .text ls :: rest => ending (last before ls) rest
  | .gap _ :: rest => ending before rest

/-- Pieces after others begin behind the last of them. -/
theorem joined_append (before : Lexeme) (ps qs : List Piece) :
    joined before (ps ++ qs) = (joined before ps && joined (ending before ps) qs) := by
  induction ps generalizing before with
  | nil =>
      rw [List.nil_append, joined, Bool.true_and, ending]
  | cons p ps ih =>
      cases p with
      | text ls => rw [List.cons_append, joined, ih, joined, ending, Bool.and_assoc]
      | gap mayComma =>
          rw [List.cons_append, joined, ih, joined, ending, Bool.and_assoc, Bool.and_assoc,
            Bool.and_assoc]

/-- The last lexeme of pieces after others. -/
theorem ending_append (before : Lexeme) (ps qs : List Piece) :
    ending before (ps ++ qs) = ending (ending before ps) qs := by
  induction ps generalizing before with
  | nil =>
      rfl
  | cons p ps ih =>
      cases p with
      | text ls => exact ih _
      | gap mayComma => exact ih _

/-! ### Tokens -/

/-- Whether a piece puts no comma. -/
def isPlain (p : Piece) : Bool :=
  match p with
  | .text _ => true
  | .gap comma => !comma

/-- The tokens of the lexemes of a piece. -/
def tokens (p : Piece) : List Token :=
  match p with
  | .text ls => ls.flatMap Lexeme.tokens
  | .gap _ => []

/-- Pieces that put no comma **stand for the tokens of their lexemes** and nothing else. -/
theorem Spells.eq_of_isPlain {ps : List Piece} {ts : List Token} (h : Spells ps ts)
    (hplain : ps.all isPlain = true) : ts = ps.flatMap tokens := by
  induction h with
  | nil =>
      rfl
  | text _ ih =>
      rw [List.all_cons, Bool.and_eq_true] at hplain
      rw [ih hplain.2]
      rfl
  | gap _ ih =>
      rw [List.all_cons, Bool.and_eq_true] at hplain
      exact ih hplain.2
  | comma _ _ =>
      rw [List.all_cons, Bool.and_eq_true] at hplain
      cases hplain.1

/-- What pieces after others stand for. -/
theorem Spells.append_inv {ps qs : List Piece} {ts : List Token} (h : Spells (ps ++ qs) ts) :
    ∃ front more, Spells ps front ∧ Spells qs more ∧ ts = front ++ more := by
  induction ps generalizing ts with
  | nil =>
      exact ⟨[], ts, .nil, h, rfl⟩
  | cons p ps ih =>
      cases h with
      | text h =>
          obtain ⟨front, more, hfront, hmore, rfl⟩ := ih h
          exact ⟨_, more, .text hfront, hmore, (List.append_assoc _ _ _).symm⟩
      | gap h =>
          obtain ⟨front, more, hfront, hmore, rfl⟩ := ih h
          exact ⟨front, more, .gap hfront, hmore, rfl⟩
      | comma h =>
          obtain ⟨front, more, hfront, hmore, rfl⟩ := ih h
          exact ⟨_, more, .comma hfront, hmore, rfl⟩

/-- Pieces that put no comma in front of others. -/
theorem Spells.plain_inv {ps qs : List Piece} {ts : List Token} (h : Spells (ps ++ qs) ts)
    (hplain : ps.all isPlain = true) : ∃ more, Spells qs more ∧ ts = ps.flatMap tokens ++ more := by
  obtain ⟨front, more, hfront, hmore, rfl⟩ := h.append_inv
  rw [hfront.eq_of_isPlain hplain]
  exact ⟨more, hmore, rfl⟩

/-! ### Cutting what has been laid out -/

/-- Any separator may stand where a blank may. -/
theorem precedes_blank (l : Lexeme) (c : Char) : l.precedes (.blank c) = l.precedes blank := by
  cases l <;> rfl

/-- A separator is cut off without a token, and kept apart from what stands before it. -/
theorem lexes_blank {c : Char} {before : Lexeme} {cs : List Char} {ts : List Token}
    (hc : (Lexeme.blank c).isSound = true) (hbefore : before.precedes blank = true)
    (h : Lexes cs ts) : Lexes (c :: cs) ts ∧ before.Admits (c :: cs) := by
  refine ⟨Lexeme.lexes hc trivial h, ?_⟩
  exact @Lexeme.admits_text before _ cs hc ((precedes_blank before c).trans hbefore)

/-- So are the blanks that are owed. -/
theorem lexes_blanks {n : Nat} {before : Lexeme} {cs : List Char} {ts : List Token}
    (hbefore : n ≠ 0 → before.precedes blank = true) (h : Lexes cs ts) (hcs : before.Admits cs) :
    Lexes (List.replicate n ' ' ++ cs) ts ∧ before.Admits (List.replicate n ' ' ++ cs) := by
  induction n with
  | zero =>
      exact ⟨h, hcs⟩
  | succ n ih =>
      have hblank := hbefore (Nat.succ_ne_zero n)
      rw [List.replicate_succ, List.cons_append]
      exact lexes_blank (by decide) hblank (ih fun _ => hblank).1

/-- Lexemes that do not run into each other are cut off as their tokens. -/
theorem lexes_chain {ls : List Lexeme} {before : Lexeme} {cs : List Char} {ts : List Token}
    (hchain : chained before ls = true) (hsound : ls.all Lexeme.isSound = true)
    (h : Lexes cs ts) (hcs : (last before ls).Admits cs) :
    Lexes (ls.flatMap Lexeme.text ++ cs) (ls.flatMap Lexeme.tokens ++ ts) ∧
      before.Admits (ls.flatMap Lexeme.text ++ cs) := by
  induction ls generalizing before with
  | nil =>
      exact ⟨h, hcs⟩
  | cons l ls ih =>
      rw [chained, Bool.and_eq_true] at hchain
      rw [List.all_cons, Bool.and_eq_true] at hsound
      obtain ⟨hrest, hl⟩ := ih hchain.2 hsound.2 hcs
      rw [List.flatMap_cons, List.flatMap_cons, List.append_assoc, List.append_assoc]
      exact ⟨Lexeme.lexes hsound.1 hl hrest, Lexeme.admits_text hsound.1 hchain.1⟩

/-- Lexemes that do not run into each other, nor into what follows, are kept apart from what
stands before them. -/
theorem admits_chain {ls : List Lexeme} {before : Lexeme} {cs : List Char}
    (hchain : chained before ls = true) (hsound : ls.all Lexeme.isSound = true)
    (hcs : (last before ls).Admits cs) : before.Admits (ls.flatMap Lexeme.text ++ cs) := by
  cases ls with
  | nil =>
      exact hcs
  | cons l ls =>
      rw [chained, Bool.and_eq_true] at hchain
      rw [List.all_cons, Bool.and_eq_true] at hsound
      rw [List.flatMap_cons, List.append_assoc]
      exact Lexeme.admits_text hsound.1 hchain.1

/-- What is cut behind such lexemes is what follows them. -/
theorem lexes_chain_inv {ls : List Lexeme} {before : Lexeme} {cs : List Char} {ts : List Token}
    (hchain : chained before ls = true) (hsound : ls.all Lexeme.isSound = true)
    (hcs : (last before ls).Admits cs) (h : Lexes (ls.flatMap Lexeme.text ++ cs) ts) :
    ∃ more, ts = ls.flatMap Lexeme.tokens ++ more ∧ Lexes cs more := by
  induction ls generalizing before ts with
  | nil =>
      exact ⟨ts, rfl, h⟩
  | cons l ls ih =>
      rw [chained, Bool.and_eq_true] at hchain
      rw [List.all_cons, Bool.and_eq_true] at hsound
      rw [List.flatMap_cons, List.append_assoc] at h
      have hl := admits_chain hchain.2 hsound.2 hcs
      obtain ⟨ts, rfl, hrest⟩ := Lexeme.lexes_inv hsound.1 hl h
      obtain ⟨more, rfl, hmore⟩ := ih hchain.2 hsound.2 hcs hrest
      exact ⟨more, by rw [List.flatMap_cons, List.append_assoc], hmore⟩

/-- Lexemes that do not run into each other, nor into what follows, are cut into their tokens and
those of the rest. -/
theorem tokens?_chain {ls : List Lexeme} {cs : List Char} (hchain : chained blank ls = true)
    (hsound : ls.all Lexeme.isSound = true) (hcs : (last blank ls).Admits cs) :
    tokens? (ls.flatMap Lexeme.text ++ cs) =
      (tokens? cs).map (ls.flatMap Lexeme.tokens ++ ·) := by
  ext ts
  rw [tokens?_eq_some_iff, Option.map_eq_some_iff]
  constructor
  · intro h
    obtain ⟨more, rfl, hmore⟩ := lexes_chain_inv hchain hsound hcs h
    exact ⟨more, tokens?_eq_some_iff.2 hmore, rfl⟩
  · rintro ⟨more, hmore, rfl⟩
    exact (lexes_chain hchain hsound (tokens?_eq_some_iff.1 hmore) hcs).1

/-- Pieces that do not run into each other, nor into what follows, are kept apart from what stands
before them. -/
theorem admits_pieces {ps : List Piece} {before : Lexeme} {cs : List Char}
    (hjoined : joined before ps = true) (hsound : ps.all isSound = true)
    (hcs : (ending before ps).Admits cs) : before.Admits (ps.flatMap spelling ++ cs) := by
  induction ps generalizing before with
  | nil =>
      exact hcs
  | cons p ps ih =>
      rw [List.all_cons, Bool.and_eq_true] at hsound
      rw [List.flatMap_cons, List.append_assoc]
      cases p with
      | text ls =>
          rw [joined, Bool.and_eq_true] at hjoined
          exact admits_chain hjoined.1 hsound.1 (ih hjoined.2 hsound.2 hcs)
      | gap mayComma =>
          rw [joined, Bool.and_eq_true] at hjoined
          exact ih hjoined.2 hsound.2 hcs

/-- What is cut behind such pieces, spelled without anything in their gaps, is **what follows
them**. -/
theorem lexes_spelling_inv {ps : List Piece} {before : Lexeme} {cs : List Char} {ts : List Token}
    (hjoined : joined before ps = true) (hsound : ps.all isSound = true)
    (hcs : (ending before ps).Admits cs) (h : Lexes (ps.flatMap spelling ++ cs) ts) :
    ∃ more, ts = ps.flatMap tokens ++ more ∧ Lexes cs more := by
  induction ps generalizing before ts with
  | nil =>
      exact ⟨ts, rfl, h⟩
  | cons p ps ih =>
      rw [List.all_cons, Bool.and_eq_true] at hsound
      rw [List.flatMap_cons, List.append_assoc] at h
      cases p with
      | text ls =>
          rw [joined, Bool.and_eq_true] at hjoined
          have hrest := admits_pieces hjoined.2 hsound.2 hcs
          obtain ⟨ts, rfl, hts⟩ := lexes_chain_inv hjoined.1 hsound.1 hrest h
          obtain ⟨more, rfl, hmore⟩ := ih hjoined.2 hsound.2 hcs hts
          exact ⟨more, by rw [List.flatMap_cons, List.append_assoc]; rfl, hmore⟩
      | gap mayComma =>
          rw [joined, Bool.and_eq_true] at hjoined
          obtain ⟨more, rfl, hmore⟩ := ih hjoined.2 hsound.2 hcs h
          exact ⟨more, rfl, hmore⟩

/-- The comma that a gap puts at the end of a line is **cut off as a mark**, behind the blanks that
are owed. -/
theorem lexes_comma {before : Lexeme} (n : Nat) {cs : List Char} {ts : List Token}
    (hblank : before.precedes blank = true) (hcomma : before.precedes comma = true)
    (h : Lexes cs ts) :
    Lexes (List.replicate n ' ' ++ ',' :: '\n' :: cs) (.mark ',' false :: ts) ∧
      before.Admits (List.replicate n ' ' ++ ',' :: '\n' :: cs) := by
  obtain ⟨hline, -⟩ := @lexes_blank '\n' comma _ _ (by decide) (by rfl) h
  have hmark := Lexeme.lexes (l := comma) (by decide) (by rfl) hline
  have hfirst := @Lexeme.admits_text before comma ('\n' :: cs) (by decide) hcomma
  exact lexes_blanks (fun _ => hblank) hmark hfirst

/-- However pieces are laid out, they are **cut into tokens that they stand for**. The induction
is on the pieces; behind a gap it goes on as if nothing stood in it, which asks for the most. -/
theorem lexes_of_prints {ps : List Piece} {before : Lexeme} {n k : Nat} {cs : List Char}
    (hsound : ps.all isSound = true) (hjoined : joined before ps = true)
    (hlast : (ending before ps).isLast = true) (hbefore : n ≠ 0 → before.precedes blank = true)
    (h : Prints (ps.map atom) n cs k) :
    ∃ ts, Spells ps ts ∧ Lexes cs ts ∧ before.Admits cs := by
  induction ps generalizing before n cs with
  | nil =>
      cases h
      exact ⟨[], .nil, .nil, Lexeme.admits_nil hlast⟩
  | cons p ps ih =>
      rw [List.all_cons, Bool.and_eq_true] at hsound
      rw [List.map_cons] at h
      cases p with
      | text ls =>
          rw [joined, Bool.and_eq_true] at hjoined
          cases h with
          | text h =>
              obtain ⟨ts, hspells, hlexes, hadmits⟩ := ih hsound.2 hjoined.2 hlast nofun h
              obtain ⟨hchain, hfirst⟩ := lexes_chain hjoined.1 hsound.1 hlexes hadmits
              rw [List.append_assoc]
              obtain ⟨hall, hall'⟩ := lexes_blanks hbefore hchain hfirst
              exact ⟨_, .text hspells, hall, hall'⟩
      | gap mayComma =>
          rw [joined, Bool.and_eq_true, Bool.and_eq_true, Bool.or_eq_true] at hjoined
          obtain ⟨⟨hblank, hcomma⟩, hrest⟩ := hjoined
          cases h with
          | stay hle h =>
              obtain ⟨ts, hspells, hlexes, hadmits⟩ :=
                ih hsound.2 hrest hlast (fun _ => hblank) h
              exact ⟨ts, .gap hspells, hlexes, hadmits⟩
          | lineEnd h =>
              obtain ⟨ts, hspells, hlexes, -⟩ := ih hsound.2 hrest hlast (fun _ => hblank) h
              obtain ⟨hall, hadmits⟩ := lexes_blank (c := '\n') (by decide) hblank hlexes
              exact ⟨ts, .gap hspells, hall, hadmits⟩
          | comma h =>
              obtain ⟨ts, hspells, hlexes, -⟩ := ih hsound.2 hrest hlast (fun _ => hblank) h
              obtain ⟨hall, hadmits⟩ := lexes_comma n hblank (hcomma.resolve_left nofun) hlexes
              exact ⟨_, .comma hspells, hall, hadmits⟩

/-- Pieces may be laid out without anything in their gaps. -/
theorem prints_spelling (ps : List Piece) :
    Prints (ps.map atom) 0 (ps.flatMap spelling) 0 := by
  induction ps with
  | nil =>
      exact .nil
  | cons p ps ih =>
      cases p with
      | text ls => exact .text ih
      | gap mayComma => exact .stay Nat.le.refl ih

end Piece

end Scaffold.Source
