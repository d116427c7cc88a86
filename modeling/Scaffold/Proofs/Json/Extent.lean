import Scaffold.Proofs.Json.Unique

/-!
# Where a text ends

A text is cut into tokens from its front, so a text that goes on is cut into the same tokens as
before and those of what follows, unless a numeral at its end goes on too. The tokens of a value
are never the first ones of another value. Together: of a text that spells a value other than a
number, no continuation spells a value, unless it adds white space only.

## Main results

* `tokens_append` - the tokens of a text that goes on.
* `Spelled.append_gap` - white space behind a text.
* `Spelled.isGap_of_append` - what a text that spells a value may be continued with.
-/

namespace Scaffold.Json

/-! ### One token at a time -/

/-- The text behind a token that is not faulty is shorter. -/
theorem length_lt_of_next? {bs rest : List UInt8} {t : Token} (h : next? bs = some (t, rest))
    (hfault : t.isFaulty = false) : rest.length < bs.length := by
  obtain ⟨gap, word, -, hword, rfl⟩ := next?_inv h hfault
  obtain ⟨b, more, rfl, -⟩ := hword.head
  simp only [List.length_append, List.length_cons]
  omega

/-- The tokens of a text do not depend on the bound, if it is large enough. -/
theorem tokensWithin_eq {n m : Nat} {bs : List UInt8} (hn : bs.length ≤ n) (hm : bs.length ≤ m) :
    tokensWithin n bs = tokensWithin m bs := by
  have hempty : ∀ k, tokensWithin k [] = [] := fun k => by cases k <;> rfl
  induction n generalizing m bs with
  | zero =>
      obtain rfl := List.length_eq_zero_iff.1 (Nat.le_zero.1 hn)
      rw [hempty, hempty]
  | succ n ih =>
      cases m with
      | zero =>
          obtain rfl := List.length_eq_zero_iff.1 (Nat.le_zero.1 hm)
          rw [hempty, hempty]
      | succ m =>
          rw [tokensWithin, tokensWithin]
          cases hnext : next? bs with
          | none => rfl
          | some cut =>
              obtain ⟨t, rest⟩ := cut
              dsimp only
              cases hfault : t.isFaulty with
              | true => rfl
              | false =>
                  have hshorter := length_lt_of_next? hnext hfault
                  rw [if_neg Bool.false_ne_true, if_neg Bool.false_ne_true]
                  exact congrArg (t :: ·) (ih (by omega) (by omega))

/-- The **tokens of a text** are the first one and those of the text behind it, unless there is
none or it is faulty. -/
theorem tokens_eq (bs : List UInt8) :
    tokens bs = match next? bs with
      | none => []
      | some (t, rest) => t :: if t.isFaulty then [] else tokens rest := by
  have hbound : tokens bs = tokensWithin (bs.length + 1) bs :=
    tokensWithin_eq (Nat.le_refl _) (Nat.le_succ _)
  rw [hbound, tokensWithin]
  cases hnext : next? bs with
  | none => rfl
  | some cut =>
      obtain ⟨t, rest⟩ := cut
      dsimp only
      cases hfault : t.isFaulty with
      | true => rfl
      | false =>
          have hshorter := length_lt_of_next? hnext hfault
          exact congrArg (t :: ·) (tokensWithin_eq (Nat.le_of_lt hshorter) (Nat.le_refl _))

/-- A text without tokens is white space. -/
theorem isGap_of_tokens_eq_nil {bs : List UInt8} (h : tokens bs = []) : IsGap bs := by
  rw [tokens_eq] at h
  cases hnext : next? bs with
  | none => exact next?_eq_none hnext
  | some cut =>
      rw [hnext] at h
      cases h

/-! ### Texts that go on -/

/-- White space in front of a text adds no token. -/
theorem tokens_gap_append {gap : List UInt8} (h : IsGap gap) (bs : List UInt8) :
    tokens (gap ++ bs) = tokens bs := by
  rw [tokens_eq, tokens_eq bs, next?, next?, dropWhile_gap h]

/-- A text that spells a token at least, and stops a numeral, stops it whatever follows. -/
theorem Spelled.stops_append {t : Token} {ts : List Token} {bs : List UInt8}
    (h : Spelled (t :: ts) bs) (ht : t.isNumber = false) (more : List UInt8) :
    Stops (bs ++ more) := by
  have hstops : Stops bs := h.stops fun u hu => by
    obtain rfl := Option.some.inj hu
    exact ht
  have hne : bs ≠ [] := by
    cases h with
    | cons _ hword _ =>
        obtain ⟨b, rest, rfl, -⟩ := hword.head
        simp
  intro b hb
  rw [List.head?_append_of_ne_nil _ hne] at hb
  exact hstops b hb

/-- The **tokens of a text that goes on** are those of the text and those of what follows, if no
number is the last one: its digits could go on. -/
theorem tokens_append {ts : List Token} {bs : List UInt8} (h : Spelled ts bs) (hts : Separated ts)
    (hlast : ∀ t ∈ ts.getLast?, t.isNumber = false) (more : List UInt8) :
    tokens (bs ++ more) = ts ++ tokens more := by
  induction h with
  | nil hgap => exact tokens_gap_append hgap more
  | @cons t ts gap word rest hgap hword hrest ih =>
      obtain ⟨hapart, hts⟩ := hts
      have hstops : t.isNumber = true → Stops (rest ++ more) := by
        intro ht
        cases ts with
        | nil => exact absurd ht (Bool.eq_false_iff.1 (hlast t rfl))
        | cons u us => exact hrest.stops_append (hapart ht u rfl) more
      have hsound : t.isFaulty = false := by
        cases hword <;> rfl
      have hmore : tokens (rest ++ more) = ts ++ tokens more := by
        refine ih hts fun u hu => hlast u ?_
        cases ts with
        | nil => cases hu
        | cons v vs => exact hu
      rw [List.append_assoc, List.append_assoc, tokens_eq, next?_spelled hgap hword hstops]
      dsimp only
      rw [hsound, if_neg Bool.false_ne_true, hmore, List.cons_append]

/-- **White space behind a text** leaves its tokens as they are. -/
theorem Spelled.append_gap {ts : List Token} {bs gap : List UInt8} (h : Spelled ts bs)
    (hgap : IsGap gap) : Spelled ts (bs ++ gap) := by
  induction h with
  | nil hfront => exact .nil fun b hb => (List.mem_append.1 hb).elim (hfront b) (hgap b)
  | cons hfront hword _ ih =>
      rw [List.append_assoc, List.append_assoc]
      exact .cons hfront hword ih

/-! ### Values -/

/-- The last token of a value that is no number is none either. -/
theorem Tree.isNumber_getLast? {t : Tree} (h : ∀ n, t ≠ .number n) :
    ∀ u ∈ t.tokens.getLast?, u.isNumber = false := by
  intro u hu
  cases t with
  | number n => exact absurd rfl (h n)
  | list es =>
      rw [tokens_list, ← List.cons_append, List.getLast?_concat] at hu
      obtain rfl := Option.some.inj hu
      rfl
  | object ms =>
      rw [tokens_object, ← List.cons_append, List.getLast?_concat] at hu
      obtain rfl := Option.some.inj hu
      rfl
  | _ =>
      obtain rfl := Option.some.inj hu
      rfl

/-- If a text spells a value that is no number and goes on as the **text of a value, only white
space** is added. -/
theorem Spelled.isGap_of_append {t t' : Tree} {bs more : List UInt8} (h : Spelled t.tokens bs)
    (hnumber : ∀ n, t ≠ .number n) (h' : Spelled t'.tokens (bs ++ more)) : IsGap more := by
  have hseparated := t.separated [] trivial nofun
  rw [List.append_nil] at hseparated
  have htokens : t.tokens ++ tokens more = t'.tokens ++ [] := by
    rw [List.append_nil, ← spelled_tree_iff.1 h']
    exact (tokens_append h hseparated (Tree.isNumber_getLast? hnumber) more).symm
  exact isGap_of_tokens_eq_nil (Tree.eq_of_tokens_append htokens).2

end Scaffold.Json
