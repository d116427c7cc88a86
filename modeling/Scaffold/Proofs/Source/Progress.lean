import Scaffold.Proofs.Source.Lexing
import Scaffold.Proofs.Source.Number

/-!
# A lexeme takes a character at least

What follows the first lexeme of a source is shorter than the source, whatever the lexeme is.
The length of a source therefore bounds the number of its lexemes, and the bound on the steps by
which it is cut is never reached.

## Main results

* `next?_length` - what follows a lexeme is shorter.
* `tokens?_eq_some_iff` - a source is cut exactly if it is cut step by step.
-/

namespace Scaffold.Source

open Text (startsIdentifier continuesIdentifier)

variable {cs rest : List Char}

/-! ### Quotations -/

/-- Behind a quotation stands the end of the text. -/
theorem suffix_of_readFrom {rules : Text.Quoted.Rules} {mode : Text.Quoted.Mode}
    {x : List Char × List Char} (h : Text.Quoted.readFrom rules mode cs = some x) :
    x.2 <:+ cs := by
  fun_induction Text.Quoted.readFrom rules mode cs generalizing x with
  | case1 => cases h
  | case2 mode c cs _ => cases h
  | case3 mode c cs _ =>
    cases h
    exact List.suffix_cons c cs
  | case4 mode c cs next _ ih => exact (ih h).trans (List.suffix_cons c cs)
  | case5 mode c cs d _ ih =>
    obtain ⟨y, hy, rfl⟩ := Option.map_eq_some_iff.1 h
    exact (ih hy).trans (List.suffix_cons c cs)

/-- Behind an escape stands the end of the text. -/
theorem suffix_of_escapeFrom {rules : Text.Quoted.Rules} {mode : Text.Quoted.Mode}
    {x : Char × List Char} (h : Text.Quoted.escapeFrom rules mode cs = some x) : x.2 <:+ cs := by
  fun_induction Text.Quoted.escapeFrom rules mode cs generalizing x with
  | case1 => cases h
  | case2 => cases h
  | case3 => cases h
  | case4 => cases h
  | case5 => cases h
  | case6 mode c cs next _ _ _ ih => exact (ih h).trans (List.suffix_cons c cs)
  | case7 mode c cs d _ =>
    cases h
    exact List.suffix_cons c cs

namespace Literal

/-- Behind a raw quotation stands the end of the text. -/
theorem suffix_of_raw? {rules : Text.Quoted.Rules} {x : List Char × List Char}
    (h : raw? rules cs = some x) : x.2 <:+ cs := by
  have hfrom {hashes ds : List Char} {x : List Char × List Char}
      (h : rawFrom rules hashes ds = some x) : x.2 <:+ ds := by
    induction ds generalizing x with
    | nil => cases h
    | cons c ds ih =>
      rw [rawFrom] at h
      split at h
      · cases h
        exact (List.drop_suffix _ _).trans (List.suffix_cons c ds)
      · split at h
        · cases h
        · obtain ⟨y, hy, rfl⟩ := Option.map_eq_some_iff.1 h
          exact (ih hy).trans (List.suffix_cons c ds)
  unfold raw? at h
  dsimp only at h
  split at h
  · next more hmore =>
    split at h
    · have hdrop := List.dropWhile_suffix (l := cs) fun c => decide (c = '#')
      rw [hmore] at hdrop
      exact ((hfrom h).trans (List.suffix_cons _ _)).trans hdrop
    · cases h
  · cases h

/-- Behind a single character stands the end of the text. -/
theorem suffix_of_single? {rules : Text.Quoted.Rules} (h : single? rules cs = some rest) :
    rest <:+ cs := by
  unfold single? at h
  dsimp only at h
  split at h
  · next more hmore =>
    cases h
    suffices hquote : '\'' :: rest <:+ cs from (List.suffix_cons _ _).trans hquote
    split at hmore
    · cases hmore
    · obtain ⟨x, hx, heq⟩ := Option.map_eq_some_iff.1 hmore
      rw [← heq]
      exact (suffix_of_escapeFrom hx).trans (List.suffix_cons _ _)
    · split at hmore
      · cases hmore
        exact List.suffix_cons _ _
      · cases hmore
  · cases h

/-- Behind a quoted literal stands the end of the text behind its first character. -/
theorem suffix_of_quoted? {k : LiteralKind} (h : quoted? cs = some (k, rest)) :
    rest <:+ cs.tail := by
  have hread {β : Type} {o : Option (β × List Char)} {ds : List Char}
      {f : β × List Char → LiteralKind × List Char} (ho : o.map f = some (k, rest))
      (hf : ∀ x, (f x).2 = x.2) (hsuffix : ∀ x, o = some x → x.2 <:+ ds) : rest <:+ ds := by
    obtain ⟨x, hx, heq⟩ := Option.map_eq_some_iff.1 ho
    obtain rfl : x.2 = rest := (hf x).symm.trans (congrArg Prod.snd heq)
    exact hsuffix x hx
  have hsingle {rules : Text.Quoted.Rules} {kind : LiteralKind} {ds : List Char}
      (ho : (single? rules ds).map (fun rest => (kind, rest)) = some (k, rest)) : rest <:+ ds := by
    obtain ⟨x, hx, heq⟩ := Option.map_eq_some_iff.1 ho
    cases heq
    exact suffix_of_single? hx
  unfold quoted? at h
  split at h
  · exact hread h (fun _ => rfl) fun _ => suffix_of_readFrom
  · exact (hread h (fun _ => rfl) fun _ => suffix_of_readFrom).trans (List.suffix_cons _ _)
  · exact (hread h (fun _ => rfl) fun _ => suffix_of_readFrom).trans (List.suffix_cons _ _)
  · exact (hread h (fun _ => rfl) fun _ => suffix_of_raw?).trans (List.suffix_cons _ _)
  · exact (hread h (fun _ => rfl) fun _ => suffix_of_raw?).trans (List.suffix_cons _ _)
  · exact hread h (fun _ => rfl) fun _ => suffix_of_raw?
  · exact (hsingle h).trans (List.suffix_cons _ _)
  · exact hsingle h
  · cases h

/-- Behind a literal stands the **end of the text behind its first character**. -/
theorem suffix_of_read? {l : Literal} (h : read? cs = some (l, rest)) : rest <:+ cs.tail := by
  obtain ⟨⟨k, more⟩, hkind, heq⟩ := Option.map_eq_some_iff.1 h
  cases heq
  unfold kind? at hkind
  split at hkind
  · next hquoted =>
    cases hkind
    exact (suffix_afterSuffix _).trans (suffix_of_quoted? hquoted)
  · cases cs with
    | nil => cases hkind
    | cons c cs => exact suffix_of_number? hkind

end Literal

/-! ### Names and marks -/

/-- Behind a word stands the end of the text behind its first character. -/
theorem suffix_of_word? {w : List Char} (h : word? cs = some (w, rest)) : rest <:+ cs.tail := by
  unfold word? at h
  split at h
  · cases h
  · split at h
    · cases h
      exact List.dropWhile_suffix _
    · cases h

/-- So it does behind a name, raw or plain. -/
theorem suffix_of_name? {n : Name} (h : name? cs = some (n, rest)) : rest <:+ cs.tail := by
  unfold name? at h
  split at h
  · next more =>
    obtain ⟨⟨w, more⟩, hword, heq⟩ := Option.bind_eq_some_iff.1 h
    dsimp only at heq
    split at heq
    · cases heq
    · cases heq
      exact (suffix_of_word? hword).trans ((List.tail_suffix _).trans (List.suffix_cons _ _))
  · obtain ⟨⟨w, more⟩, hword, heq⟩ := Option.map_eq_some_iff.1 h
    cases heq
    exact suffix_of_word? hword

/-- So it does behind what is neither a bracket nor a literal. -/
theorem suffix_of_bare? {t : Token} (h : bare? cs = some (t, rest)) : rest <:+ cs.tail := by
  unfold bare? at h
  split at h
  · cases h
  · next c more =>
    split at h
    · obtain ⟨⟨n, z⟩, hname, heq⟩ := Option.bind_eq_some_iff.1 h
      dsimp only at heq
      split at heq
      · cases heq
      · cases heq
        exact (suffix_of_name? hname).trans (List.tail_suffix _)
    · split at h
      · cases h
        exact List.suffix_rfl
      · split at h
        · cases h
        · obtain ⟨⟨n, z⟩, hname, heq⟩ := Option.map_eq_some_iff.1 h
          cases heq
          exact suffix_of_name? hname

/-- Behind any token stands the **end of the text behind its first character**. -/
theorem suffix_of_token? {t : Token} (h : token? cs = some (t, rest)) : rest <:+ cs.tail := by
  unfold token? at h
  split at h
  · cases h
    exact List.drop_one ▸ List.suffix_rfl
  · split at h
    · next hread =>
      cases h
      exact Literal.suffix_of_read? hread
    · exact suffix_of_bare? h

/-! ### Comments -/

/-- What follows a doc comment is shorter. -/
theorem docComment?_length {ts : List Token} (h : docComment? cs = some (ts, rest)) :
    rest.length < cs.length := by
  unfold docComment? at h
  dsimp only at h
  split at h
  · next kind more =>
    split at h
    · split at h
      · cases h
        have hdrop := List.length_drop (i := (lineContent more).length) (l := more)
        simp only [List.length_cons, hdrop]
        omega
      · cases h
    · cases h
  · next kind more _ =>
    split at h
    · obtain ⟨x, hx, heq⟩ := Option.bind_eq_some_iff.1 h
      split at heq
      · cases heq
        have hlength := blockContent?_length hx
        simp only [List.length_cons]
        omega
      · cases heq
    · cases h
  · cases h

/-! ### Lexemes -/

/-- There is no token without a character. -/
theorem ne_nil_of_token? {t : Token} (h : token? cs = some (t, rest)) : cs ≠ [] := by
  rintro rfl
  cases h

/-- What follows a lexeme is **shorter than the source**. -/
theorem next?_length {ts : List Token} (h : next? cs = some (ts, rest)) :
    rest.length < cs.length := by
  unfold next? at h
  split at h
  · next hdoc =>
    cases h
    exact docComment?_length hdoc
  · obtain ⟨⟨t, more⟩, htoken, heq⟩ := Option.map_eq_some_iff.1 h
    cases heq
    have hsuffix := (suffix_of_token? htoken).length_le
    have hpos := List.length_pos_iff.2 (ne_nil_of_token? htoken)
    rw [List.length_tail] at hsuffix
    omega

/-- What is left when separators are skipped is cut as the source itself. -/
theorem Lexes.of_skipWithin {n : Nat} {ts : List Token} (h : Lexes (skipWithin n cs) ts) :
    Lexes cs ts := by
  induction n generalizing cs with
  | zero => exact h
  | succ n ih =>
    rw [skipWithin] at h
    split at h
    · next hdrop => exact .drop hdrop (ih h)
    · exact h

/-- All separators are skipped, and the source gets no longer. -/
theorem skipWithin_spec {n : Nat} (hn : cs.length ≤ n) :
    dropSeparator? (skipWithin n cs) = none ∧ (skipWithin n cs).length ≤ cs.length := by
  induction n generalizing cs with
  | zero =>
    obtain rfl := List.eq_nil_of_length_eq_zero (Nat.le_zero.1 hn)
    exact ⟨rfl, Nat.le_refl _⟩
  | succ n ih =>
    rw [skipWithin]
    split
    · next hdrop =>
      have hshort := dropSeparator?_length hdrop
      obtain ⟨hnone, hle⟩ := ih (Nat.le_of_lt_succ (Nat.lt_of_lt_of_le hshort hn))
      exact ⟨hnone, by omega⟩
    · next hdrop => exact ⟨hdrop, Nat.le_refl _⟩

/-- A source that is cut within as many steps as it has characters **is cut step by step**. -/
theorem lexes_of_tokensWithin {n : Nat} {ts : List Token} (hn : cs.length ≤ n)
    (h : tokensWithin n cs = some ts) : Lexes cs ts := by
  induction n generalizing cs ts with
  | zero =>
    obtain rfl := List.eq_nil_of_length_eq_zero (Nat.le_zero.1 hn)
    cases h
    exact .nil
  | succ n ih =>
    obtain ⟨hdrop, hle⟩ := skipWithin_spec hn
    refine @Lexes.of_skipWithin cs (n + 1) ts ?_
    rw [tokensWithin] at h
    split at h
    · next hnil =>
      cases h
      rw [hnil]
      exact .nil
    · obtain ⟨⟨first, more⟩, hnext, hmap⟩ := Option.bind_eq_some_iff.1 h
      obtain ⟨ts, hts, rfl⟩ := Option.map_eq_some_iff.1 hmap
      have hshort := next?_length hnext
      exact .next hdrop hnext hshort (ih (by omega) hts)

/-- A source **is cut exactly if it is cut step by step**. -/
theorem tokens?_eq_some_iff {ts : List Token} : tokens? cs = some ts ↔ Lexes cs ts :=
  ⟨lexes_of_tokensWithin (Nat.le_refl _), Lexes.tokens?_eq_some⟩

/-- A source is cut into its first lexeme and the rest. -/
theorem tokens?_of_next? {first : List Token} (hdrop : dropSeparator? cs = none)
    (hnext : next? cs = some (first, rest)) : tokens? cs = (tokens? rest).map (first ++ ·) := by
  have hne : cs ≠ [] := by
    rintro rfl
    cases hnext
  ext ts
  rw [tokens?_eq_some_iff, Option.map_eq_some_iff]
  constructor
  · intro h
    obtain ⟨first', rest', more, hnext', -, rfl, hmore⟩ := h.next_inv hne hdrop
    cases hnext.symm.trans hnext'
    exact ⟨more, tokens?_eq_some_iff.2 hmore, rfl⟩
  · rintro ⟨more, hmore, rfl⟩
    exact .next hdrop hnext (next?_length hnext) (tokens?_eq_some_iff.1 hmore)

end Scaffold.Source
