import Scaffold.Json.Lexer
import Scaffold.Proofs.Json.Tree
import Scaffold.Proofs.Text.Utf8

/-!
# The lexer reads what is spelled

Cutting a text into tokens and spelling a row of tokens are inverse to each other. One way
round, a text of whose tokens none is faulty is spelled by them. The other way round, a spelled
row of tokens is what the text is cut into, if in the row no number follows a number: a numeral
goes on as far as it can.

## Main results

* `stringBody_inv`, `stringBody_spelled`, `numeral_inv`, `numeral_spelled`, `word_inv` - the parts
  of tokens.
* `tokenFrom_inv`, `tokenFrom_spelled` - one token.
* `spelled_tokens`, `tokens_eq_of_spelled` - whole texts.
-/

namespace Scaffold.Json

open Text (hexValue?)

/-! ### Bytes as characters -/

/-- The number of a byte's character is that of the byte. -/
theorem toNat_asChar (b : UInt8) : (asChar b).toNat = b.toNat := by
  have hb := Text.Utf8.toNat_lt b
  exact Text.Utf8.toNat_ofNat (.inl (by omega))

/-- A byte is seen as a character exactly if it is that character's byte. -/
theorem asChar_eq_iff {b : UInt8} {c : Char} (hc : c.toNat < 256) :
    asChar b = c ↔ b = octet c := by
  constructor
  · rintro rfl
    rw [octet, toNat_asChar, UInt8.ofNat_toNat]
  · rintro rfl
    rw [octet, asChar, Text.Utf8.byte_toNat hc, Char.ofNat_toNat]

/-- The value of a hexadecimal digit. -/
theorem hexValue?_eq_some_iff {b : UInt8} {v : Nat} :
    hexValue? (asChar b) = some v ↔ IsHexDigit b v := by
  have hb := toNat_asChar b
  have hdigit : (asChar b).isDigit = true ↔ 48 ≤ b.toNat ∧ b.toNat ≤ 57 := by
    rw [← hb, Char.isDigit, Bool.and_eq_true, decide_eq_true_iff, decide_eq_true_iff]
    exact Iff.rfl
  have hlower : ('a' ≤ asChar b ∧ asChar b ≤ 'f') ↔ 97 ≤ b.toNat ∧ b.toNat ≤ 102 := by
    rw [← hb]
    exact Iff.rfl
  have hupper : ('A' ≤ asChar b ∧ asChar b ≤ 'F') ↔ 65 ≤ b.toNat ∧ b.toNat ≤ 70 := by
    rw [← hb]
    exact Iff.rfl
  simp only [hexValue?, hdigit, hlower, hupper, hb, IsHexDigit, Char.reduceToNat]
  split
  · simp only [Option.some.injEq]
    omega
  · split
    · simp only [Option.some.injEq]
      omega
    · split
      · simp only [Option.some.injEq]
        omega
      · simp only [reduceCtorEq, false_iff]
        omega

/-- The code unit of four digits. -/
theorem hexUnit?_eq_some_iff {a b c d : UInt8} {u : Nat} :
    hexUnit? a b c d = some u ↔ ∃ x y z w, IsHexDigit a x ∧ IsHexDigit b y ∧ IsHexDigit c z ∧
      IsHexDigit d w ∧ u = 4096 * x + 256 * y + 16 * z + w := by
  simp only [hexUnit?, Option.bind_eq_bind, Option.bind_eq_some_iff, hexValue?_eq_some_iff,
    Option.some.injEq]
  constructor
  · rintro ⟨x, hx, y, hy, z, hz, w, hw, rfl⟩
    exact ⟨x, y, z, w, hx, hy, hz, hw, by omega⟩
  · rintro ⟨x, y, z, w, hx, hy, hz, hw, rfl⟩
    exact ⟨x, hx, y, hy, z, hz, w, hw, by omega⟩

/-- The character of a one-letter escape. -/
theorem namedEscape?_eq_some_iff {b : UInt8} {c : Char} :
    namedEscape? b = some c ↔ ∃ e, b = octet e ∧ (e, c) ∈ escapes := by
  constructor
  · intro h
    unfold namedEscape? at h
    split at h
    case h_9 => cases h
    all_goals
      next heq =>
        obtain rfl := Option.some.inj h
        exact ⟨_, (asChar_eq_iff (by decide)).1 heq, by decide⟩
  · rintro ⟨e, rfl, he⟩
    simp only [escapes, List.mem_cons, Prod.mk.injEq, List.not_mem_nil, or_false] at he
    rcases he with ⟨rfl, rfl⟩ | ⟨rfl, rfl⟩ | ⟨rfl, rfl⟩ | ⟨rfl, rfl⟩ | ⟨rfl, rfl⟩ | ⟨rfl, rfl⟩ |
      ⟨rfl, rfl⟩ | ⟨rfl, rfl⟩ <;> rfl

/-! ### Strings -/

/-- A string that does not break off is spelled by its pieces and a closing quote. -/
theorem stringBody_inv {bs rest : List UInt8} {ps : List Piece}
    (h : stringBody bs = (ps, none, rest)) :
    ∃ word, ContentText ps word ∧ bs = word ++ octet '"' :: rest := by
  fun_induction stringBody bs generalizing ps with
  | case1 => cases h
  | case2 b bs hquote =>
      cases h
      exact ⟨[], .nil, by rw [(asChar_eq_iff (by decide)).1 hquote, List.nil_append]⟩
  | case3 => cases h
  | case4 b hquote hslash e hu h₁ h₂ h₃ h₄ bs u hunit ps' more hbody ih =>
      cases h
      obtain ⟨word, hword, rfl⟩ := ih hbody
      obtain ⟨x, y, z, w, hx, hy, hz, hw, rfl⟩ := hexUnit?_eq_some_iff.1 hunit
      rw [(asChar_eq_iff (by decide)).1 hslash, (asChar_eq_iff (by decide)).1 hu]
      exact ⟨_, .cons (.unit hx hy hz hw) hword, rfl⟩
  | case5 => cases h
  | case6 => cases h
  | case7 b hquote hslash e bs hu c hnamed ps' more hbody ih =>
      cases h
      obtain ⟨word, hword, rfl⟩ := ih hbody
      obtain ⟨d, rfl, hd⟩ := namedEscape?_eq_some_iff.1 hnamed
      rw [(asChar_eq_iff (by decide)).1 hslash]
      exact ⟨_, .cons (.named hd) hword, rfl⟩
  | case8 => cases h
  | case9 => cases h
  | case10 b bs hquote hslash hcontrol ps' more hbody ih =>
      cases h
      obtain ⟨word, hword, rfl⟩ := ih hbody
      have hlow : 0x20 ≤ b.toNat := Nat.le_of_not_lt hcontrol
      rw [asChar_eq_iff (by decide)] at hquote hslash
      exact ⟨_, .cons (.byte hlow hquote hslash) hword, rfl⟩

/-- A piece that is spelled is the first of what is read. -/
theorem stringBody_piece {p : Piece} {word bs : List UInt8} (h : PieceText p word) :
    stringBody (word ++ bs) = (p :: (stringBody bs).1, (stringBody bs).2) := by
  cases h with
  | byte hlow hquote hslash =>
      rename_i b
      have hcontrol : ¬ b < 0x20 := Nat.not_lt.2 hlow
      rw [List.singleton_append, stringBody.eq_def]
      dsimp only
      rw [if_neg (mt (asChar_eq_iff (by decide)).1 hquote),
        if_neg (mt (asChar_eq_iff (by decide)).1 hslash), if_neg hcontrol]
  | named he =>
      rename_i e c
      have hnamed := namedEscape?_eq_some_iff.2 ⟨e, rfl, he⟩
      have hu : ¬ asChar (octet e) = 'u' := by
        intro hu
        rw [namedEscape?, hu] at hnamed
        cases hnamed
      rw [List.cons_append, List.singleton_append, stringBody.eq_def]
      dsimp only
      rw [if_neg (by decide), if_pos (by decide), if_neg hu, hnamed]
  | unit hx hy hz hw =>
      have hunit := hexUnit?_eq_some_iff.2 ⟨_, _, _, _, hx, hy, hz, hw, rfl⟩
      simp only [List.cons_append, List.nil_append]
      rw [stringBody.eq_def]
      dsimp only
      rw [if_neg (by decide), if_pos (by decide), if_pos (by decide), hunit]

/-- The pieces that spell a string are read up to the closing quote. -/
theorem stringBody_spelled {ps : List Piece} {word : List UInt8} (h : ContentText ps word)
    (rest : List UInt8) : stringBody (word ++ octet '"' :: rest) = (ps, none, rest) := by
  induction h with
  | nil =>
      rw [List.nil_append, stringBody.eq_def]
      dsimp only
      rw [if_pos (by decide)]
  | cons hp _ ih => rw [List.append_assoc, stringBody_piece hp, ih]

/-! ### Words -/

/-- A word that is read to its end is spelled by its letters. -/
theorem word_inv {t t' : Token} {letters : List Char} {bs rest : List UInt8}
    (hletters : ∀ l ∈ letters, l.toNat < 256)
    (h : word t letters bs = (t', rest)) (hfault : t'.isFaulty = false) :
    t' = t ∧ bs = octets letters ++ rest := by
  induction letters generalizing bs with
  | nil =>
      cases h
      exact ⟨rfl, rfl⟩
  | cons l letters ih =>
      obtain ⟨hl, hletters⟩ := List.forall_mem_cons.1 hletters
      cases bs with
      | nil =>
          cases h
          cases hfault
      | cons b bs =>
          rw [word] at h
          split at h
          · next hb =>
            obtain ⟨rfl, rfl⟩ := ih hletters h
            exact ⟨rfl, by rw [(asChar_eq_iff hl).1 hb, octets, octets, List.map_cons,
              List.cons_append]⟩
          · cases h
            cases hfault

/-- The letters that spell a word are read. -/
theorem word_spelled {t : Token} {letters : List Char}
    (hletters : ∀ l ∈ letters, l.toNat < 256) (rest : List UInt8) :
    word t letters (octets letters ++ rest) = (t, rest) := by
  induction letters with
  | nil => rw [octets, List.map_nil, List.nil_append, word]
  | cons l letters ih =>
      obtain ⟨hl, hletters⟩ := List.forall_mem_cons.1 hletters
      rw [octets, List.map_cons, List.cons_append, word, if_pos ((asChar_eq_iff hl).2 rfl)]
      exact ih hletters

/-! ### Numerals -/

/-- The bytes that are digits. -/
theorem isDigit_iff {b : UInt8} : isDigit b = true ↔ 0x30 ≤ b.toNat ∧ b.toNat ≤ 0x39 := by
  rw [isDigit, Bool.and_eq_true, decide_eq_true_iff, decide_eq_true_iff]
  exact Iff.rfl

/-- The byte of a digit. -/
theorem isDigit_ofNat {d : Nat} (h : d < 10) : isDigit (UInt8.ofNat ('0'.toNat + d)) = true := by
  have hd := Text.Utf8.byte_toNat (show '0'.toNat + d < 256 by simp only [Char.reduceToNat]; omega)
  rw [isDigit_iff, hd]
  simp only [Char.reduceToNat]
  omega

/-- The text ends, or goes on with a byte that is no part of a numeral. -/
def Stops (bs : List UInt8) : Prop :=
  ∀ b ∈ bs.head?, isDigit b = false ∧ b ≠ octet '.' ∧ b ≠ octet 'e' ∧ b ≠ octet 'E'

/-- The digits that are read spell what is read. -/
theorem digits_inv {bs rest : List UInt8} {ds : List Nat} (h : digits bs = (ds, rest)) :
    (∀ d ∈ ds, d < 10) ∧ bs = digitBytes ds ++ rest := by
  cases h
  have hdigit : ∀ b ∈ bs.takeWhile isDigit, 0x30 ≤ b.toNat ∧ b.toNat ≤ 0x39 :=
    fun b hb => isDigit_iff.1 (List.all_eq_true.1 List.all_takeWhile b hb)
  constructor
  · intro d hd
    obtain ⟨b, hb, rfl⟩ := List.mem_map.1 hd
    have hbounds := hdigit b hb
    omega
  · rw [digitBytes, List.map_map, List.map_congr_left (g := id), List.map_id,
      List.takeWhile_append_dropWhile]
    intro b hb
    have hbounds := hdigit b hb
    have hsum : '0'.toNat + (b.toNat - 0x30) = b.toNat := by
      simp only [Char.reduceToNat]
      omega
    rw [Function.comp_apply, hsum, UInt8.ofNat_toNat, id_eq]

/-- Digits that are spelled are read, up to a byte that is none. -/
theorem digits_spelled {ds : List Nat} {rest : List UInt8} (hds : ∀ d ∈ ds, d < 10)
    (hrest : ∀ b ∈ rest.head?, isDigit b = false) :
    digits (digitBytes ds ++ rest) = (ds, rest) := by
  have hall : ∀ b ∈ digitBytes ds, isDigit b = true := by
    intro b hb
    obtain ⟨d, hd, rfl⟩ := List.mem_map.1 hb
    exact isDigit_ofNat (hds d hd)
  have htake : rest.takeWhile isDigit = [] := by
    cases rest with
    | nil => rfl
    | cons b rest => rw [List.takeWhile_cons, hrest b rfl, if_neg Bool.false_ne_true]
  have hdrop : rest.dropWhile isDigit = rest := by
    have h := List.takeWhile_append_dropWhile (p := isDigit) (l := rest)
    rwa [htake, List.nil_append] at h
  have hvalue : ∀ d ∈ ds, (UInt8.ofNat ('0'.toNat + d)).toNat - 0x30 = d := by
    intro d hd
    have hlt := hds d hd
    rw [Text.Utf8.byte_toNat (by simp only [Char.reduceToNat]; omega)]
    simp only [Char.reduceToNat]
    omega
  rw [digits, List.takeWhile_append_of_pos hall, List.dropWhile_append_of_pos hall, htake, hdrop,
    List.append_nil, digitBytes, List.map_map, List.map_congr_left (g := id), List.map_id]
  exact hvalue

/-- The sign that is read spells whether the exponent is negative. -/
theorem exponentSign_inv (bs : List UInt8) :
    ∃ sign, SignText (exponentSign bs).1 sign ∧ bs = sign ++ (exponentSign bs).2 := by
  cases bs with
  | nil => exact ⟨[], .none, rfl⟩
  | cons s bs =>
      rw [exponentSign]
      split
      · next hminus =>
        exact ⟨_, .minus, by rw [(asChar_eq_iff (by decide)).1 hminus, List.singleton_append]⟩
      · split
        · next hplus =>
          exact ⟨_, .plus, by rw [(asChar_eq_iff (by decide)).1 hplus, List.singleton_append]⟩
        · exact ⟨[], .none, rfl⟩

/-- A sign that is spelled before a digit is read. -/
theorem exponentSign_spelled {negative : Bool} {sign : List UInt8} {b : UInt8}
    (h : SignText negative sign) (hb : isDigit b = true) (bs : List UInt8) :
    exponentSign (sign ++ b :: bs) = (negative, b :: bs) := by
  cases h with
  | minus => rw [List.singleton_append, exponentSign, if_pos (by decide)]
  | plus => rw [List.singleton_append, exponentSign, if_neg (by decide), if_pos (by decide)]
  | none =>
      have hminus : ¬ asChar b = '-' := by
        rw [asChar_eq_iff (by decide)]
        rintro rfl
        exact absurd hb (by decide)
      have hplus : ¬ asChar b = '+' := by
        rw [asChar_eq_iff (by decide)]
        rintro rfl
        exact absurd hb (by decide)
      rw [List.nil_append, exponentSign, if_neg hminus, if_neg hplus]

/-- What is read behind the other parts of a numeral is an exponent, or nothing. -/
theorem exponentPart_inv {n : Numeral} {bs rest : List UInt8} {t : Token}
    (hn : n.exponent = none) (h : exponentPart n bs = (t, rest)) (hfault : t.isFaulty = false) :
    ∃ exponent word, t = .number { n with exponent := exponent } ∧
      ExponentText exponent word ∧ bs = word ++ rest := by
  have hnone : ∃ exponent word, Token.number n = .number { n with exponent := exponent } ∧
      ExponentText exponent word ∧ bs = word ++ bs :=
    ⟨none, [], by rw [← hn], .none, rfl⟩
  cases bs with
  | nil =>
      cases h
      exact hnone
  | cons e bs =>
      rw [exponentPart] at h
      split at h
      · next he =>
        rw [asChar_eq_iff (by decide), asChar_eq_iff (by decide)] at he
        obtain ⟨letter, hletter, rfl⟩ : ∃ c, (c = 'e' ∨ c = 'E') ∧ e = octet c := by
          rcases he with he | he
          · exact ⟨'e', .inl rfl, he⟩
          · exact ⟨'E', .inr rfl, he⟩
        split at h
        · cases h
          cases hfault
        · next ds more hne hdigits =>
          cases h
          obtain ⟨hlt, hbs⟩ := digits_inv hdigits
          obtain ⟨sign, hsign, hsigned⟩ := exponentSign_inv bs
          refine ⟨_, _, rfl, .some hletter hsign ⟨?_, hlt⟩, ?_⟩
          · rintro rfl
            exact hne rfl
          · rw [List.cons_append, List.append_assoc, ← hbs, ← hsigned]
      · cases h
        exact hnone

/-- An exponent that is spelled is read. -/
theorem exponentPart_spelled {n : Numeral} {exponent : Option (Bool × List Nat)}
    {word rest : List UInt8} (hn : n.exponent = none) (h : ExponentText exponent word)
    (hrest : Stops rest) :
    exponentPart n (word ++ rest) = (.number { n with exponent := exponent }, rest) := by
  cases h with
  | none =>
      have hsame : { n with exponent := none } = n := by rw [← hn]
      rw [List.nil_append, hsame]
      cases rest with
      | nil => rfl
      | cons b rest =>
          obtain ⟨-, -, he, hE⟩ := hrest b rfl
          rw [exponentPart, if_neg]
          rw [asChar_eq_iff (by decide), asChar_eq_iff (by decide)]
          exact not_or.2 ⟨he, hE⟩
  | @some negative ds e sign he hsign hds =>
      obtain ⟨hne, hlt⟩ := hds
      have hletter : asChar (octet e) = 'e' ∨ asChar (octet e) = 'E' := by
        rcases he with rfl | rfl
        · exact .inl (by decide)
        · exact .inr (by decide)
      have hdigits := digits_spelled hlt fun b hb => (hrest b hb).1
      obtain ⟨d, ds, rfl⟩ := List.exists_cons_of_ne_nil hne
      have hsigned := exponentSign_spelled hsign (isDigit_ofNat (hlt d List.mem_cons_self))
        (digitBytes ds ++ rest)
      rw [List.cons_append, List.append_assoc, exponentPart, if_pos hletter]
      rw [digitBytes, List.map_cons, List.cons_append] at hdigits ⊢
      rw [digitBytes] at hsigned
      rw [hsigned, hdigits]

/-- What is read behind the whole part of a numeral is a fraction or nothing, and an exponent
or nothing. -/
theorem fractionPart_inv {n : Numeral} {bs rest : List UInt8} {t : Token}
    (hfraction : n.fraction = none) (hexponent : n.exponent = none)
    (h : fractionPart n bs = (t, rest)) (hfault : t.isFaulty = false) :
    ∃ fraction exponent word₁ word₂,
      t = .number { n with fraction := fraction, exponent := exponent } ∧
        FractionText fraction word₁ ∧ ExponentText exponent word₂ ∧
        bs = word₁ ++ (word₂ ++ rest) := by
  have hnone : exponentPart n bs = (t, rest) → ∃ fraction exponent word₁ word₂,
      t = .number { n with fraction := fraction, exponent := exponent } ∧
        FractionText fraction word₁ ∧ ExponentText exponent word₂ ∧
        bs = word₁ ++ (word₂ ++ rest) := by
    intro h
    obtain ⟨exponent, word, rfl, hword, rfl⟩ := exponentPart_inv hexponent h hfault
    exact ⟨none, exponent, [], word, by rw [← hfraction], .none, hword, rfl⟩
  cases bs with
  | nil => exact hnone h
  | cons p bs =>
      rw [fractionPart] at h
      split at h
      · next hp =>
        obtain rfl := (asChar_eq_iff (by decide)).1 hp
        split at h
        · cases h
          cases hfault
        · next ds more hne hdigits =>
          obtain ⟨hlt, rfl⟩ := digits_inv hdigits
          obtain ⟨exponent, word, rfl, hword, rfl⟩ :=
            exponentPart_inv (n := { n with fraction := some ds }) hexponent h hfault
          refine ⟨some ds, exponent, _, word, rfl, .some ⟨?_, hlt⟩, hword, rfl⟩
          rintro rfl
          exact hne rfl
      · exact hnone h

/-- Behind an exponent, or nothing, no digit follows that would belong to a fraction. -/
theorem ExponentText.stops {exponent : Option (Bool × List Nat)} {word rest : List UInt8}
    (h : ExponentText exponent word) (hrest : Stops rest) :
    ∀ b ∈ (word ++ rest).head?, isDigit b = false ∧ b ≠ octet '.' := by
  cases h with
  | none => exact fun b hb => ⟨(hrest b hb).1, (hrest b hb).2.1⟩
  | some he hsign hds =>
      intro b hb
      obtain rfl := Option.some.inj hb
      rcases he with rfl | rfl
      · decide
      · decide

/-- A fraction and an exponent that are spelled are read. -/
theorem fractionPart_spelled {n : Numeral} {fraction : Option (List Nat)}
    {exponent : Option (Bool × List Nat)} {word₁ word₂ rest : List UInt8}
    (hfraction : n.fraction = none) (hexponent : n.exponent = none)
    (h₁ : FractionText fraction word₁) (h₂ : ExponentText exponent word₂) (hrest : Stops rest) :
    fractionPart n (word₁ ++ (word₂ ++ rest))
      = (.number { n with fraction := fraction, exponent := exponent }, rest) := by
  have hstops := h₂.stops hrest
  cases h₁ with
  | none =>
      have hsame : { n with fraction := none, exponent := exponent }
          = { n with exponent := exponent } := by rw [← hfraction]
      have hread := exponentPart_spelled hexponent h₂ hrest
      rw [List.nil_append, hsame]
      generalize word₂ ++ rest = bs at hstops hread ⊢
      cases bs with
      | nil => exact hread
      | cons b bs =>
          have hpoint : ¬ asChar b = '.' := mt (asChar_eq_iff (by decide)).1 (hstops b rfl).2
          rw [fractionPart, if_neg hpoint, hread]
  | @some ds hds =>
      obtain ⟨hne, hlt⟩ := hds
      have hdigits := digits_spelled hlt fun b hb => (hstops b hb).1
      have hread := exponentPart_spelled (n := { n with fraction := some ds }) hexponent h₂ hrest
      obtain ⟨d, ds, rfl⟩ := List.exists_cons_of_ne_nil hne
      rw [List.cons_append, fractionPart, if_pos (by decide), hdigits]
      exact hread

/-- A numeral that is read behind its sign is spelled by what is read. -/
theorem numeral_inv {negative : Bool} {bs rest : List UInt8} {t : Token}
    (h : numeral negative bs = (t, rest)) (hfault : t.isFaulty = false) :
    ∃ n word, t = .number n ∧ NumeralText n (minusBytes negative ++ word) ∧
      bs = word ++ rest := by
  rw [numeral] at h
  split at h
  · cases h
    cases hfault
  · cases h
    cases hfault
  · next ds more hne hzero hdigits =>
    obtain ⟨hlt, rfl⟩ := digits_inv hdigits
    obtain ⟨fraction, exponent, word₁, word₂, rfl, h₁, h₂, rfl⟩ :=
      fractionPart_inv (n := ⟨negative, ds, none, none⟩) rfl rfl h hfault
    refine ⟨_, digitBytes ds ++ word₁ ++ word₂, rfl, ?_, by simp only [List.append_assoc]⟩
    have hnumeral : NumeralText ⟨negative, ds, fraction, exponent⟩ _ := .intro ⟨?_, hlt⟩ ?_ h₁ h₂
    · rwa [List.append_assoc, List.append_assoc, ← List.append_assoc (digitBytes ds)]
        at hnumeral
    · rintro rfl
      exact hne rfl
    · intro hhead
      rcases ds with _ | ⟨d, _ | ⟨e, ds⟩⟩
      · cases hhead
      · exact congrArg (fun d => [d]) (Option.some.inj hhead)
      · obtain rfl := Option.some.inj hhead
        exact (hzero e ds rfl).elim

/-- A numeral that is spelled is read behind its sign. -/
theorem numeral_spelled {n : Numeral} {word : List UInt8} (h : NumeralText n word)
    (rest : List UInt8) (hrest : Stops rest) :
    ∃ b more, word = minusBytes n.negative ++ b :: more ∧ isDigit b = true ∧
      numeral n.negative (b :: more ++ rest) = (.number n, rest) := by
  cases h with
  | @intro word₁ word₂ hds hzero h₁ h₂ =>
      obtain ⟨negative, ds, fraction, exponent⟩ := n
      obtain ⟨hne, hlt⟩ := hds
      have hstops : ∀ b ∈ (word₁ ++ (word₂ ++ rest)).head?, isDigit b = false := by
        cases h₁ with
        | none => exact fun b hb => (h₂.stops hrest b hb).1
        | some =>
            intro b hb
            obtain rfl := Option.some.inj hb
            decide
      have hdigits := digits_spelled hlt hstops
      have hread := fractionPart_spelled (n := ⟨negative, ds, none, none⟩) rfl rfl h₁ h₂ hrest
      have hnumeral : numeral negative (digitBytes ds ++ (word₁ ++ (word₂ ++ rest)))
          = (.number ⟨negative, ds, fraction, exponent⟩, rest) := by
        rw [numeral, hdigits]
        split
        · next heq => exact absurd (congrArg Prod.fst heq) hne
        · next heq =>
          obtain rfl : ds = _ := congrArg Prod.fst heq
          cases hzero rfl
        · next heq =>
          cases heq
          exact hread
      obtain ⟨d, ds, rfl⟩ := List.exists_cons_of_ne_nil hne
      refine ⟨UInt8.ofNat ('0'.toNat + d), digitBytes ds ++ word₁ ++ word₂, ?_,
        isDigit_ofNat (hlt d List.mem_cons_self), ?_⟩
      · simp only [digitBytes, List.map_cons, List.append_assoc, List.cons_append]
      · rw [← hnumeral]
        simp only [digitBytes, List.map_cons, List.append_assoc, List.cons_append]

/-! ### Tokens -/

/-- A byte with which a numeral without sign begins. -/
theorem tokenFrom_digit {b : UInt8} (hb : isDigit b = true) (rest : List UInt8) :
    tokenFrom b rest = numeral false (b :: rest) := by
  have hne : ∀ c : Char, c.toNat < 256 → isDigit (octet c) = false → ¬ asChar b = c := by
    rintro c hc hdigit heq
    rw [(asChar_eq_iff hc).1 heq, hdigit] at hb
    cases hb
  rw [tokenFrom]
  split
  case h_12 => rw [if_pos hb]
  all_goals next heq => exact absurd heq (hne _ (by decide) (by decide))

/-- A token that is cut and is not faulty is **spelled by what is cut**. -/
theorem tokenFrom_inv {b : UInt8} {bs rest : List UInt8} {t : Token}
    (h : tokenFrom b bs = (t, rest)) (hfault : t.isFaulty = false) :
    ∃ word, TokenText t word ∧ b :: bs = word ++ rest := by
  rw [tokenFrom] at h
  split at h
  case h_7 heq =>
    obtain ⟨rfl, rfl⟩ := word_inv (by simp) h hfault
    exact ⟨_, .nullWord, by rw [(asChar_eq_iff (by decide)).1 heq]; rfl⟩
  case h_8 heq =>
    obtain ⟨rfl, rfl⟩ := word_inv (by simp) h hfault
    exact ⟨_, .trueWord, by rw [(asChar_eq_iff (by decide)).1 heq]; rfl⟩
  case h_9 heq =>
    obtain ⟨rfl, rfl⟩ := word_inv (by simp) h hfault
    exact ⟨_, .falseWord, by rw [(asChar_eq_iff (by decide)).1 heq]; rfl⟩
  case h_10 heq =>
    split at h
    next pieces fault more hbody =>
    cases h
    obtain rfl : fault = none := Option.isSome_eq_false_iff.1 hfault |> Option.isNone_iff_eq_none.1
    obtain ⟨word, hword, rfl⟩ := stringBody_inv hbody
    refine ⟨_, .string hword, ?_⟩
    rw [(asChar_eq_iff (by decide)).1 heq, List.cons_append, List.append_assoc,
      List.singleton_append]
  case h_11 heq =>
    obtain ⟨n, word, rfl, hword, rfl⟩ := numeral_inv h hfault
    exact ⟨_, .number hword, by rw [(asChar_eq_iff (by decide)).1 heq]; rfl⟩
  case h_12 =>
    split at h
    · obtain ⟨n, word, rfl, hword, heq⟩ := numeral_inv h hfault
      exact ⟨word, .number hword, heq⟩
    · cases h
      cases hfault
  -- What is left are the tokens of one byte.
  all_goals
    next heq =>
      cases h
      rw [(asChar_eq_iff (by decide)).1 heq]
      exact ⟨_, by constructor, rfl⟩

/-- A token that is spelled is **cut as it is spelled**, if behind a number the text stops. -/
theorem tokenFrom_spelled {t : Token} {word : List UInt8} (h : TokenText t word)
    {rest : List UInt8} (hrest : t.isNumber = true → Stops rest) :
    ∃ b bs, word = b :: bs ∧ tokenFrom b (bs ++ rest) = (t, rest) := by
  cases h with
  | nullWord => exact ⟨_, _, rfl, word_spelled (by simp) rest⟩
  | trueWord => exact ⟨_, _, rfl, word_spelled (by simp) rest⟩
  | falseWord => exact ⟨_, _, rfl, word_spelled (by simp) rest⟩
  | @number n word hnumeral =>
      obtain ⟨b, more, rfl, hb, hread⟩ := numeral_spelled hnumeral rest (hrest rfl)
      obtain ⟨_ | _, whole, fraction, exponent⟩ := n
      · exact ⟨b, more, rfl, (tokenFrom_digit hb _).trans hread⟩
      · exact ⟨octet '-', b :: more, rfl, hread⟩
  | @string ps word hcontent =>
      refine ⟨_, _, rfl, ?_⟩
      have hread := stringBody_spelled hcontent rest
      rw [List.append_assoc, List.singleton_append, tokenFrom]
      split
      case h_10 => rw [hread]
      all_goals contradiction
  | openList => exact ⟨_, _, rfl, rfl⟩
  | closeList => exact ⟨_, _, rfl, rfl⟩
  | openObject => exact ⟨_, _, rfl, rfl⟩
  | closeObject => exact ⟨_, _, rfl, rfl⟩
  | comma => exact ⟨_, _, rfl, rfl⟩
  | colon => exact ⟨_, _, rfl, rfl⟩

/-! ### Texts -/

/-- The bytes that separate tokens. -/
theorem isSpace_iff {b : UInt8} :
    isSpace b = true ↔ b = octet ' ' ∨ b = octet '\t' ∨ b = octet '\n' ∨ b = octet '\r' := by
  simp only [isSpace, Bool.or_eq_true, decide_eq_true_iff, or_assoc]
  exact Iff.rfl

/-- The first byte of a token is no white space. -/
theorem TokenText.head {t : Token} {word : List UInt8} (h : TokenText t word) :
    ∃ b bs, word = b :: bs ∧ isSpace b = false := by
  cases h with
  | @number n word hnumeral =>
      obtain ⟨b, more, rfl, hb, -⟩ := numeral_spelled hnumeral [] nofun
      rw [isDigit_iff] at hb
      obtain ⟨_ | _, whole, fraction, exponent⟩ := n
      · refine ⟨b, more, rfl, Bool.eq_false_iff.2 fun hspace => ?_⟩
        rcases isSpace_iff.1 hspace with rfl | rfl | rfl | rfl <;> exact absurd hb (by decide)
      · exact ⟨octet '-', b :: more, rfl, by decide⟩
  | _ => exact ⟨_, _, rfl, by decide⟩

/-- White space stops a numeral. -/
theorem stops_of_isSpace {b : UInt8} (h : isSpace b = true) (bs : List UInt8) :
    Stops (b :: bs) := by
  intro c hc
  obtain rfl := Option.some.inj hc
  rcases isSpace_iff.1 h with rfl | rfl | rfl | rfl <;> decide

/-- A token that is no number stops a numeral. -/
theorem TokenText.stops {t : Token} {word bs : List UInt8} (h : TokenText t word)
    (ht : t.isNumber = false) : Stops (word ++ bs) := by
  cases h with
  | number => cases ht
  | _ =>
      intro b hb
      obtain rfl := Option.some.inj hb
      decide

/-- Where the tokens begin with no number, the text stops a numeral. -/
theorem Spelled.stops {ts : List Token} {bs : List UInt8} (h : Spelled ts bs)
    (hstart : StartsApart ts) : Stops bs := by
  cases h with
  | nil hgap =>
      intro b hb
      exact stops_of_isSpace (isSpace_iff.2 (hgap b (List.mem_of_mem_head? hb))) [] b rfl
  | @cons t ts gap word rest hgap hword _ =>
      cases gap with
      | nil => exact hword.stops (hstart t rfl)
      | cons b gap => exact stops_of_isSpace (isSpace_iff.2 (hgap b List.mem_cons_self)) _

/-- White space in front of a text is dropped. -/
theorem dropWhile_gap {gap : List UInt8} (h : IsGap gap) (bs : List UInt8) :
    (gap ++ bs).dropWhile isSpace = bs.dropWhile isSpace :=
  List.dropWhile_append_of_pos fun b hb => isSpace_iff.2 (h b hb)

/-- A text in front of which there is white space only. -/
theorem exists_gap (bs : List UInt8) : ∃ gap, IsGap gap ∧ bs = gap ++ bs.dropWhile isSpace :=
  ⟨bs.takeWhile isSpace,
    fun b hb => isSpace_iff.1 (List.all_eq_true.1 List.all_takeWhile b hb),
    List.takeWhile_append_dropWhile.symm⟩

/-- Where no token is left, only white space is. -/
theorem next?_eq_none {bs : List UInt8} (h : next? bs = none) : IsGap bs := by
  obtain ⟨gap, hgap, hbs⟩ := exists_gap bs
  rw [next?] at h
  split at h
  · next hdrop =>
    rw [hdrop, List.append_nil] at hbs
    rwa [hbs]
  · cases h

/-- The next token, if it is not faulty, is spelled by what is cut behind the white space. -/
theorem next?_inv {bs rest : List UInt8} {t : Token} (h : next? bs = some (t, rest))
    (hfault : t.isFaulty = false) :
    ∃ gap word, IsGap gap ∧ TokenText t word ∧ bs = gap ++ (word ++ rest) := by
  obtain ⟨gap, hgap, hbs⟩ := exists_gap bs
  rw [next?] at h
  split at h
  · cases h
  · next b more hdrop =>
    obtain ⟨word, hword, hsplit⟩ := tokenFrom_inv (Option.some.inj h) hfault
    exact ⟨gap, word, hgap, hword, by rw [← hsplit, ← hdrop, ← hbs]⟩

/-- A token that is spelled behind white space is the next one. -/
theorem next?_spelled {gap word rest : List UInt8} {t : Token} (hgap : IsGap gap)
    (hword : TokenText t word) (hrest : t.isNumber = true → Stops rest) :
    next? (gap ++ (word ++ rest)) = some (t, rest) := by
  obtain ⟨b, bs, rfl, hread⟩ := tokenFrom_spelled hword hrest
  obtain ⟨b', bs', heq, hspace⟩ := hword.head
  obtain ⟨rfl, rfl⟩ := List.cons.inj heq
  rw [next?, dropWhile_gap hgap, List.cons_append, List.dropWhile_cons, hspace,
    if_neg Bool.false_ne_true]
  exact congrArg some hread

/-- A text whose tokens are not faulty is **spelled by its tokens**. -/
theorem spelled_tokensWithin {n : Nat} {bs : List UInt8} (hn : bs.length ≤ n)
    (h : ∀ t ∈ tokensWithin n bs, t.isFaulty = false) : Spelled (tokensWithin n bs) bs := by
  induction n generalizing bs with
  | zero =>
      obtain rfl := List.length_eq_zero_iff.1 (Nat.le_zero.1 hn)
      exact .nil nofun
  | succ n ih =>
      rw [tokensWithin] at h ⊢
      split at h
      · next hnext => exact .nil (next?_eq_none hnext)
      · next t rest hnext =>
        have ht := h t List.mem_cons_self
        rw [ht, if_neg Bool.false_ne_true] at h ⊢
        obtain ⟨gap, word, hgap, hword, rfl⟩ := next?_inv hnext ht
        obtain ⟨b, bs, rfl, -⟩ := hword.head
        simp only [List.length_append, List.length_cons] at hn
        exact .cons hgap hword (ih (by omega) fun t ht => h t (List.mem_cons_of_mem _ ht))

/-- The tokens that spell a text are the ones it is **cut into**, if no number follows a
number. -/
theorem tokensWithin_eq_of_spelled {n : Nat} {ts : List Token} {bs : List UInt8}
    (h : Spelled ts bs) (hts : Separated ts) (hn : bs.length ≤ n) : tokensWithin n bs = ts := by
  induction h generalizing n with
  | @nil gap hgap =>
      cases n with
      | zero => rfl
      | succ n =>
          have hdrop := dropWhile_gap hgap []
          rw [List.append_nil] at hdrop
          rw [tokensWithin, next?, hdrop]
          rfl
  | @cons t ts gap word rest hgap hword hrest ih =>
      obtain ⟨hapart, hts⟩ := hts
      obtain ⟨b, bs, rfl, -⟩ := hword.head
      simp only [List.length_append, List.length_cons] at hn
      obtain ⟨n, rfl⟩ : ∃ m, n = m + 1 := ⟨n - 1, by omega⟩
      have hnext := next?_spelled hgap hword fun ht => hrest.stops (hapart ht)
      have hsound : t.isFaulty = false := by
        cases hword <;> rfl
      rw [tokensWithin, hnext]
      dsimp only
      rw [hsound, if_neg Bool.false_ne_true, ih hts (by omega)]

/-- A text is spelled by its tokens if none of them is faulty. -/
theorem spelled_tokens {bs : List UInt8} (h : ∀ t ∈ tokens bs, t.isFaulty = false) :
    Spelled (tokens bs) bs :=
  spelled_tokensWithin (Nat.le_refl _) h

/-- The tokens that spell a text are its tokens if no number follows a number. -/
theorem tokens_eq_of_spelled {ts : List Token} {bs : List UInt8} (h : Spelled ts bs)
    (hts : Separated ts) : tokens bs = ts :=
  tokensWithin_eq_of_spelled h hts (Nat.le_refl _)

end Scaffold.Json
