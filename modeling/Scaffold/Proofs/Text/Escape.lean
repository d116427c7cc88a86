import Scaffold.Proofs.Text.Identifier
import Scaffold.Proofs.Text.Quoted

/-!
# What a quotation looks like

A quotation stands on one line: neither a control character nor the end of a line is among its
characters, since an escape is spelled with visible ones. Between its quotes stands no quote
without a backslash in front of it that is not itself escaped, so that it can be told apart from
what follows without being decoded.

## Main definitions

* `controls`, `lineBreaks` - the characters that a quotation must not hold.
* `isEscaped` - whether the character behind a text is escaped.

## Main results

* `contains_eq_false_of_mem_quoteChars` - a quotation holds none of these characters.
* `isEscaped_of_flatMap_escape` - every quote inside is escaped.
-/

namespace Scaffold.Text

/-- The control characters, the general category `Cc`. -/
def controls : CharSet := ⟨[(0x0, 0x1F), (0x7F, 0x9F)]⟩

/-- The characters that end a line. -/
def lineBreaks : CharSet := ⟨[(0xA, 0xD), (0x85, 0x85), (0x2028, 0x2029)]⟩

/-- Whether the character behind a text is **escaped**: the text ends in a backslash that is not
escaped itself. -/
def isEscaped (cs : List Char) : Bool :=
  cs.foldl (fun escaped c => !escaped && c = '\\') false

/-! ### Characters without a shape -/

namespace CharSet

/-- Whether every span of one set lies within one of another. -/
def isWithin (a b : CharSet) : Bool :=
  a.spans.all fun s => b.spans.any fun t => t.1 ≤ s.1 && s.2 ≤ t.2

/-- The characters of a set that lies within another belong to the other one. -/
theorem contains_of_isWithin {a b : CharSet} {c : Char} (h : isWithin a b = true)
    (ha : a.contains c = true) : b.contains c = true := by
  obtain ⟨s, hs, hsc⟩ := contains_iff.1 ha
  obtain ⟨t, ht, hst⟩ := List.any_eq_true.1 (List.all_eq_true.1 h s hs)
  rw [Bool.and_eq_true, decide_eq_true_iff, decide_eq_true_iff] at hst
  exact contains_iff.2 ⟨t, ht, Nat.le_trans hst.1 hsc.1, Nat.le_trans hsc.2 hst.2⟩

end CharSet

/-- No printable character is without a shape. Below the table's second span this is so by the
numbers alone. -/
theorem shapeless_contains_eq_false {c : Char} (h : isPrintable c = true) :
    shapeless.contains c = false := by
  have hapart : CharSet.isApart ⟨[(0x20, 0x7E)]⟩ shapeless = true := by decide +kernel
  unfold isPrintable at h
  split at h
  · next hc =>
    refine CharSet.contains_eq_false_of_isApart hapart (CharSet.contains_iff.2 ⟨_, .head _, ?_⟩)
    exact ⟨of_decide_eq_true h, Nat.le_of_lt_succ hc⟩
  · rw [Bool.and_eq_true, Bool.not_eq_true'] at h
    exact h.1

/-- A printable character lies in no set of characters without a shape. -/
theorem contains_eq_false_of_isPrintable {s : CharSet} {c : Char}
    (hs : CharSet.isWithin s shapeless = true) (h : isPrintable c = true) :
    s.contains c = false := by
  rw [← Bool.not_eq_true]
  intro hc
  cases (CharSet.contains_of_isWithin hs hc).symm.trans (shapeless_contains_eq_false h)

/-! ### The characters of an escape -/

/-- The digits of a number. -/
theorem mem_hexDigits {n : Nat} {c : Char} (h : c ∈ hexDigits n) :
    ∃ d < 16, c = Nat.digitChar d := by
  induction n using Nat.strongRecOn with
  | ind n ih =>
    by_cases hn : n < 16
    · rw [hexDigits, Nat.toDigits_of_lt_base hn, List.mem_singleton] at h
      exact ⟨n, hn, h⟩
    · have hlast : n % 16 < 16 := Nat.mod_lt n (by decide)
      rw [hexDigits, Nat.toDigits_of_base_le (by decide) (by omega), List.mem_append,
        List.mem_singleton] at h
      rcases h with h | rfl
      · exact ih (n / 16) (by omega) h
      · exact ⟨n % 16, hlast, rfl⟩

/-- An escape is a **backslash and another character**, a printable character by itself, or the
number of a character. -/
theorem escape_cases (c : Char) :
    (∃ d, escape c = ['\\', d] ∧ d ∈ ['0', 't', 'r', 'n', '"', '\\']) ∨
      (escape c = [c] ∧ isPrintable c = true ∧ c ≠ '"' ∧ c ≠ '\\') ∨
      escape c = '\\' :: 'u' :: '{' :: hexDigits c.toNat ++ ['}'] := by
  unfold escape
  split
  · exact .inl ⟨_, rfl, by decide⟩
  · exact .inl ⟨_, rfl, by decide⟩
  · exact .inl ⟨_, rfl, by decide⟩
  · exact .inl ⟨_, rfl, by decide⟩
  · exact .inl ⟨_, rfl, by decide⟩
  · exact .inl ⟨_, rfl, by decide⟩
  · next hquote hslash =>
    split
    · next hprint => exact .inr (.inl ⟨rfl, hprint, hquote, hslash⟩)
    · exact .inr (.inr rfl)

/-- The characters of an escape are printable. -/
theorem isPrintable_of_mem_escape {c d : Char} (h : d ∈ escape c) : isPrintable d = true := by
  rcases escape_cases c with ⟨e, heq, he⟩ | ⟨heq, hprint, -⟩ | heq
  · have hletters : ['0', 't', 'r', 'n', '"', '\\'].all isPrintable = true := by decide
    rw [heq, List.mem_cons, List.mem_singleton] at h
    rcases h with rfl | rfl
    · decide
    · exact List.all_eq_true.1 hletters d he
  · rw [heq, List.mem_singleton] at h
    rwa [h]
  · have hdigit : ∀ n < 16, isPrintable (Nat.digitChar n) = true := by decide
    rw [heq] at h
    simp only [List.cons_append, List.mem_cons, List.mem_append, List.not_mem_nil, or_false] at h
    rcases h with rfl | rfl | rfl | h | rfl
    · decide
    · decide
    · decide
    · obtain ⟨n, hn, rfl⟩ := mem_hexDigits h
      exact hdigit n hn
    · decide

/-- A quotation holds **no character without a shape**. -/
theorem contains_eq_false_of_mem_quoteChars {s : CharSet} {cs : List Char} {c : Char}
    (hs : CharSet.isWithin s shapeless = true) (h : c ∈ quoteChars cs) : s.contains c = false := by
  apply contains_eq_false_of_isPrintable hs
  rw [quoteChars, List.mem_append, List.mem_cons, List.mem_flatMap, List.mem_singleton] at h
  rcases h with (rfl | ⟨d, -, hd⟩) | rfl
  · decide
  · exact isPrintable_of_mem_escape hd
  · decide

/-- Control characters have no shape. -/
theorem isWithin_controls : CharSet.isWithin controls shapeless = true := by
  decide +kernel

/-- The characters that end a line have none either. -/
theorem isWithin_lineBreaks : CharSet.isWithin lineBreaks shapeless = true := by
  decide +kernel

/-! ### Escaped quotes -/

/-- Behind a text that escapes nothing a second text escapes what it escapes by itself. -/
theorem isEscaped_append {cs : List Char} (h : isEscaped cs = false) (ds : List Char) :
    isEscaped (cs ++ ds) = isEscaped ds := by
  rw [isEscaped, List.foldl_append]
  exact congrArg (ds.foldl _) h

/-- A text without a backslash escapes nothing. -/
theorem isEscaped_eq_false {cs : List Char} (h : '\\' ∉ cs) : isEscaped cs = false := by
  induction cs with
  | nil => rfl
  | cons c cs ih =>
    obtain ⟨hc, hcs⟩ := not_or.1 (mt List.mem_cons.2 h)
    have hfirst : isEscaped [c] = false := by simp [isEscaped, Ne.symm hc]
    exact (isEscaped_append hfirst cs).trans (ih hcs)

/-- No escape is open at its end. -/
theorem isEscaped_escape (c : Char) : isEscaped (escape c) = false := by
  rcases escape_cases c with ⟨d, heq, -⟩ | ⟨heq, -, -, hslash⟩ | heq
  · rw [heq]
    rfl
  · rw [heq]
    exact isEscaped_eq_false (by simpa using Ne.symm hslash)
  · have hdigit : ∀ n < 16, Nat.digitChar n ≠ '\\' := by decide
    have hmark : isEscaped ['\\', 'u', '{'] = false := rfl
    rw [heq]
    refine (isEscaped_append hmark (hexDigits c.toNat ++ ['}'])).trans (isEscaped_eq_false ?_)
    rw [List.mem_append, List.mem_singleton]
    rintro (h | h)
    · obtain ⟨n, hn, hc⟩ := mem_hexDigits h
      exact hdigit n hn hc.symm
    · cases h

/-- A quote within an escape stands behind its backslash. -/
theorem isEscaped_of_escape {c : Char} {before after : List Char}
    (h : escape c = before ++ '"' :: after) : isEscaped before = true := by
  have hmem : '"' ∈ escape c := by
    rw [h]
    exact List.mem_append_right _ (.head _)
  rcases escape_cases c with ⟨d, heq, -⟩ | ⟨heq, -, hquote, -⟩ | heq
  · rw [heq] at h
    rcases before with _ | ⟨a, _ | ⟨b, before⟩⟩
    · cases h
    · cases h
      rfl
    · simp at h
  · rw [heq, List.mem_singleton] at hmem
    exact absurd hmem.symm hquote
  · have hdigit : ∀ n < 16, Nat.digitChar n ≠ '"' := by decide
    rw [heq] at hmem
    simp only [List.cons_append, List.mem_cons, List.mem_append, List.not_mem_nil, or_false] at hmem
    rcases hmem with h | h | h | h | h
    · cases h
    · cases h
    · cases h
    · obtain ⟨n, hn, hc⟩ := mem_hexDigits h
      exact absurd hc.symm (hdigit n hn)
    · cases h

/-- Every **quote between the quotes of a quotation is escaped**. The induction is on the text; a
quote that is not within the first escape stands behind it, where nothing is escaped yet. -/
theorem isEscaped_of_flatMap_escape {cs before after : List Char}
    (h : cs.flatMap escape = before ++ '"' :: after) : isEscaped before = true := by
  induction cs generalizing before with
  | nil => simp at h
  | cons c cs ih =>
    rw [List.flatMap_cons] at h
    rcases List.append_eq_append_iff.1 h with ⟨more, rfl, hmore⟩ | ⟨more, heq, hmore⟩
    · rw [isEscaped_append (isEscaped_escape c)]
      exact ih hmore
    · rcases more with _ | ⟨d, more⟩
      · rw [List.append_nil] at heq
        have hnil := @ih [] hmore.symm
        cases hnil
      · obtain ⟨rfl, -⟩ := List.cons.inj hmore
        exact isEscaped_of_escape heq

end Scaffold.Text
