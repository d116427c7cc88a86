import Scaffold.Proofs.Source.Progress

/-!
# Text without separators

A character is *solid* if it separates no tokens and begins no comment, quotation or raw name.
Solid text that ends in a letter is cut into tokens as if nothing stood behind it, provided that
a blank, the end of a line or a closing angle bracket follows.

## Main definitions

* `isSolid` - whether a character is solid.
* `Cut` - the first token of solid text.

## Main results

* `next?_append` - the first token of solid text does not depend on what follows.
* `Lexes.solid_inv` - neither do all of them.
-/

namespace Scaffold.Source

open Text (startsIdentifier continuesIdentifier)

/-- Whether a character separates no tokens and **begins no comment, quotation or raw name**. -/
def isSolid (c : Char) : Bool :=
  !(isSeparator c || ['/', '#', '"', '\''].contains c)

/-- A solid character is no separator, slash, hash or quote. -/
theorem isSolid_inv {c : Char} (h : isSolid c = true) :
    isSeparator c = false ∧ c ≠ '/' ∧ c ≠ '#' ∧ c ≠ '"' ∧ c ≠ '\'' := by
  simpa [isSolid] using h

variable {u v r : List Char}

/-! ### The first token -/

/-- What follows the first letter of solid text is the tail of a name. -/
theorem Stops.isTail (hv : Stops v) (hu : u.all isSolid = true) : IsTail (u ++ v) := by
  have hhead {w : List Char} (hw : w.all isSolid = true) :
      ∀ c ∈ (w ++ v).head?, c ≠ '"' ∧ c ≠ '#' ∧ c ≠ '\'' := by
    intro c hc
    rcases w with _ | ⟨d, w⟩
    · rcases hv c hc with rfl | rfl | rfl <;> decide
    · obtain rfl := Option.some.inj hc
      rw [List.all_cons, Bool.and_eq_true] at hw
      obtain ⟨-, -, hhash, hquote, happ⟩ := isSolid_inv hw.1
      exact ⟨hquote, hhash, happ⟩
  refine ⟨hhead hu, fun rest hrest => ?_⟩
  rcases u with _ | ⟨d, u⟩
  · rw [List.nil_append] at hrest
    rcases hv 'r' (by rw [hrest]; rfl) with h | h | h <;> cases h
  · rw [List.all_cons, Bool.and_eq_true] at hu
    obtain ⟨-, rfl⟩ := List.cons.inj hrest
    exact hhead hu.2

/-- A mark follows if the next character is one, where no slash follows. -/
theorem startsMark_cons {c : Char} {rest : List Char} (h : c ≠ '/') :
    startsMark (c :: rest) = marks.contains c := by
  have hcomment : startsComment (c :: rest) = false := by
    unfold startsComment
    split
    · next heq => exact absurd (List.cons.inj heq).1 h
    · next heq => exact absurd (List.cons.inj heq).1 h
    · rfl
  rw [startsMark, hcomment, List.head?_cons, Option.any_some]
  rfl

/-- The **first token of solid text**, and what follows it. -/
theorem next?_solid {c : Char} {rest : List Char} (hc : isSolid c = true) (hrest : IsTail rest) :
    next? (c :: rest) =
      match bracket? c, Literal.number? (c :: rest) with
      | some t, _ => some ([t], rest)
      | none, some (k, more) =>
        some ([.literal ⟨k, (c :: rest).take ((c :: rest).length - more.length)⟩], more)
      | none, none =>
        if marks.contains c then some ([.mark c (startsMark rest)], rest)
        else (word? (c :: rest)).map fun x => ([.name ⟨false, x.1⟩], x.2) := by
  obtain ⟨-, hslash, -, hquote, happ⟩ := isSolid_inv hc
  have hplain := any_quotePrefixes_eq_false (c := c) hrest
  have hname : name? (c :: rest) = (word? (c :: rest)).map fun x => (⟨false, x.1⟩, x.2) := by
    unfold name?
    split
    · next heq =>
        obtain ⟨-, rfl⟩ := List.cons.inj heq
        exact absurd rfl (hrest.head '#' rfl).2.1
    · rfl
  rw [next?, docComment?_eq_none hslash, token?, List.head?_cons, Option.bind_some,
    Literal.read?_eq (quoted?_eq_none hquote happ hplain), bare?, if_neg happ,
    startsMark_cons hslash, hplain, hname]
  cases bracket? c with
  | some t => rfl
  | none =>
    dsimp only
    cases Literal.number? (c :: rest) with
    | some x => rfl
    | none =>
      simp only [Option.map_none, Bool.false_eq_true, if_false]
      split
      · rfl
      · rw [Option.map_map, Option.map_map]
        rfl

/-- The **first token of solid text**, what it is and what it leaves. -/
inductive Cut : List Char → Token → List Char → Prop where
  | bracket {c : Char} {t : Token} {rest : List Char} : bracket? c = some t → Cut (c :: rest) t rest
  | number {c : Char} {l : Literal} {rest more : List Char} :
      more <:+ rest → Cut (c :: rest) (.literal l) more
  | mark {c : Char} {rest : List Char} : marks.contains c = true →
      Cut (c :: rest) (.mark c (startsMark rest)) rest
  | name {c : Char} {rest : List Char} : startsIdentifier c = true →
      Cut (c :: rest) (.name ⟨false, c :: rest.takeWhile continuesIdentifier⟩)
        (rest.dropWhile continuesIdentifier)

/-- Text that is **solid and does not end in a mark**. -/
structure IsSolidText (u : List Char) : Prop where
  solid : u.all isSolid = true
  ending : ∀ c ∈ u.getLast?, marks.contains c = false

/-- The end of solid text is solid text. -/
theorem IsSolidText.suffix (hu : IsSolidText u) (h : r <:+ u) : IsSolidText r where
  solid := by
    rw [List.all_eq_true]
    exact fun c hc => List.all_eq_true.1 hu.solid c (h.mem hc)
  ending c hc := by
    obtain ⟨w, rfl⟩ := h
    refine hu.ending c ?_
    rw [List.getLast?_append, hc]
    rfl

/-- Solid text is cut by one of these cases. -/
theorem cut_of_next? {ts : List Token} (hu : IsSolidText u) (h : next? u = some (ts, r)) :
    ∃ t, ts = [t] ∧ Cut u t r := by
  rcases u with _ | ⟨c, rest⟩
  · cases h
  have hall := hu.solid
  rw [List.all_cons, Bool.and_eq_true] at hall
  have htail : IsTail rest := List.append_nil rest ▸ @Stops.isTail rest [] nofun hall.2
  rw [next?_solid hall.1 htail] at h
  split at h
  · next hbracket =>
      cases h
      exact ⟨_, rfl, .bracket hbracket⟩
  · next hnumber =>
      cases h
      exact ⟨_, rfl, .number (Literal.suffix_of_number? hnumber)⟩
  · split at h
    · next hmark =>
        cases h
        exact ⟨_, rfl, .mark hmark⟩
    · obtain ⟨x, hx, heq⟩ := Option.map_eq_some_iff.1 h
      cases heq
      rw [word?] at hx
      split at hx
      · next hstart =>
          cases hx
          exact ⟨_, rfl, .name hstart⟩
      · cases hx

/-- The first token of solid text **does not depend on what follows**. -/
theorem next?_append (hv : Stops v) (hu : IsSolidText u) (hne : u ≠ []) :
    next? (u ++ v) = (next? u).map fun x => (x.1, x.2 ++ v) := by
  rcases u with _ | ⟨c, rest⟩
  · exact absurd rfl hne
  have hall := hu.solid
  rw [List.all_cons, Bool.and_eq_true] at hall
  have htail : IsTail rest := List.append_nil rest ▸ @Stops.isTail rest [] nofun hall.2
  have hjoint (hmark : marks.contains c = true) : startsMark (rest ++ v) = startsMark rest := by
    rcases rest with _ | ⟨d, rest⟩
    · rw [hu.ending c rfl] at hmark
      cases hmark
    · rw [List.all_cons, Bool.and_eq_true] at hall
      obtain ⟨-, hslash, -⟩ := isSolid_inv hall.2.1
      rw [List.cons_append, startsMark_cons hslash, startsMark_cons hslash]
  have hnumber := Literal.number?_append hv (c :: rest)
  -- A number is taken by its length, which what follows adds to both sides.
  have hlength (w : List Char) :
      (c :: (rest ++ v)).length - (w ++ v).length = (c :: rest).length - w.length := by
    simp only [List.length_cons, List.length_append]
    omega
  have htake (w : List Char) : (c :: (rest ++ v)).take ((c :: rest).length - w.length) =
      (c :: rest).take ((c :: rest).length - w.length) := by
    rw [← List.cons_append, List.take_append_of_le_length (Nat.sub_le _ _)]
  rw [List.cons_append] at hnumber ⊢
  rw [next?_solid hall.1 (hv.isTail hall.2), next?_solid hall.1 htail, hnumber]
  cases bracket? c with
  | some t => rfl
  | none =>
    cases Literal.number? (c :: rest) with
    | some x =>
      dsimp only [Option.map_some]
      rw [hlength, htake]
    | none =>
      dsimp only [Option.map_none]
      split
      · next hmark => rw [hjoint hmark, Option.map_some]
      · rw [word?, word?]
        split
        · rw [takeWhile_append_stops _ rest (hv.head rfl rfl rfl),
            dropWhile_append_stops _ rest (hv.head rfl rfl rfl)]
          rfl
        · rfl

/-! ### All tokens -/

/-- The **tokens of solid text**, cut off one after another. -/
inductive Cuts : List Char → List Token → Prop where
  | nil : Cuts [] []
  | cons {u r : List Char} {t : Token} {ts : List Token} :
      Cut u t r → Cuts r ts → Cuts u (t :: ts)

/-- What follows the first token is the end of the text. -/
theorem Cut.suffix {t : Token} (h : Cut u t r) : r <:+ u := by
  cases h with
  | bracket _ => exact List.suffix_cons _ _
  | number h => exact h.trans (List.suffix_cons _ _)
  | mark _ => exact List.suffix_cons _ _
  | name _ => exact (List.dropWhile_suffix _).trans (List.suffix_cons _ _)

/-- The tokens of solid text **do not depend on what follows**. The induction is on the length of
the text. -/
theorem Lexes.solid_inv {ts : List Token} (hv : Stops v) (hu : IsSolidText u)
    (h : Lexes (u ++ v) ts) :
    ∃ us vs, ts = us ++ vs ∧ Lexes u us ∧ Cuts u us ∧ Lexes v vs := by
  induction hn : u.length using Nat.strongRecOn generalizing u ts with
  | _ n ih =>
    subst hn
    rcases u with _ | ⟨c, rest⟩
    · exact ⟨[], ts, rfl, .nil, .nil, h⟩
    have hall := hu.solid
    rw [List.all_cons, Bool.and_eq_true] at hall
    obtain ⟨hsep, hslash, -⟩ := isSolid_inv hall.1
    have hdrop (more : List Char) : dropSeparator? (c :: more) = none :=
      dropSeparator?_eq_none hslash hsep
    rw [List.cons_append] at h
    obtain ⟨first, more, ts, hnext, hshort, rfl, h⟩ := h.next_inv (List.cons_ne_nil _ _) (hdrop _)
    rw [← List.cons_append] at hnext hshort
    rw [next?_append hv hu (List.cons_ne_nil _ _)] at hnext
    obtain ⟨⟨first, r⟩, hfirst, heq⟩ := Option.map_eq_some_iff.1 hnext
    cases heq
    obtain ⟨t, rfl, hcut⟩ := cut_of_next? hu hfirst
    have hlength : r.length < (c :: rest).length := by
      simp only [List.length_append] at hshort
      omega
    obtain ⟨us, vs, rfl, hus, hcuts, hvs⟩ := ih r.length hlength (hu.suffix hcut.suffix) h rfl
    exact ⟨t :: us, vs, rfl, .next (hdrop rest) hfirst hlength hus, .cons hcut hcuts, hvs⟩

variable {us : List Token}

/-- A mark of solid text is spelled as it is. -/
theorem Cut.mark_inv {c : Char} {joint : Bool} (h : Cut u (.mark c joint) r) :
    u = c :: r ∧ marks.contains c = true := by
  generalize ht : Token.mark c joint = t at h
  cases h with
  | @bracket d _ _ hbracket =>
    subst ht
    unfold bracket? at hbracket
    split at hbracket <;> cases hbracket
  | mark hmark =>
    cases ht
    exact ⟨rfl, hmark⟩
  | number _ => cases ht
  | name _ => cases ht

/-- **No token of solid text is a hash**. -/
theorem Cuts.ne_hash (h : Cuts u us) (hu : u.all isSolid = true) :
    ∀ t ∈ us, ∀ joint, t ≠ .mark '#' joint := by
  induction h with
  | nil => exact nofun
  | @cons u r t ts hcut _ ih =>
    rintro t' ht' joint rfl
    rcases List.mem_cons.1 ht' with rfl | ht'
    · obtain ⟨rfl, -⟩ := hcut.mark_inv
      rw [List.all_cons, Bool.and_eq_true] at hu
      exact (isSolid_inv hu.1).2.2.1 rfl
    · refine ih ?_ _ ht' joint rfl
      rw [List.all_eq_true] at hu ⊢
      exact fun c hc => hu c (hcut.suffix.mem hc)

/-- The **last token of solid text is no mark**. -/
theorem Cuts.getLast?_ne_mark (h : Cuts u us) (hu : IsSolidText u) (c : Char) (joint : Bool) :
    us.getLast? ≠ some (.mark c joint) := by
  induction h with
  | nil => exact nofun
  | cons hcut hcuts ih =>
    have hrest := ih (hu.suffix hcut.suffix)
    cases hcuts with
    | nil =>
      intro heq
      obtain rfl := Option.some.inj heq
      obtain ⟨rfl, hmark⟩ := hcut.mark_inv
      rw [hu.ending c rfl] at hmark
      cases hmark
    | cons _ _ => rwa [List.getLast?_cons_cons]

/-- A name of solid text is cut off to its end. -/
theorem Cut.name_inv {n : Name} (h : Cut u (.name n) r) :
    ∃ c rest, u = c :: rest ∧ startsIdentifier c = true ∧
      n = ⟨false, c :: rest.takeWhile continuesIdentifier⟩ ∧
      r = rest.dropWhile continuesIdentifier := by
  generalize ht : Token.name n = t at h
  cases h with
  | @bracket d _ _ hbracket =>
    subst ht
    unfold bracket? at hbracket
    split at hbracket <;> cases hbracket
  | mark _ => cases ht
  | number _ => cases ht
  | name hstart =>
    cases ht
    exact ⟨_, _, rfl, hstart, rfl, rfl⟩

/-- Solid text that is one name is **spelled as this name**. -/
theorem Cuts.name_inv {n : Name} (h : Cuts u [.name n]) : n = ⟨false, u⟩ ∧ n.isSpelled = true := by
  cases h with
  | cons hcut hnil =>
    obtain ⟨c, rest, rfl, hstart, rfl, hrest⟩ := hcut.name_inv
    have hall : rest.takeWhile continuesIdentifier = rest := by
      have happend := List.takeWhile_append_dropWhile (p := continuesIdentifier) (l := rest)
      cases hnil
      rwa [← hrest, List.append_nil] at happend
    have hletters := List.all_takeWhile (p := continuesIdentifier) (l := rest)
    rw [hall] at hletters ⊢
    refine ⟨rfl, ?_⟩
    dsimp only [Name.isSpelled]
    rw [hstart, hletters]
    rfl

end Scaffold.Source
