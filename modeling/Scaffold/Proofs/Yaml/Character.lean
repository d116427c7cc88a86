import Scaffold.Yaml.Token.Lexer
import Scaffold.Yaml.Writer

/-!
# Characters of written texts

A text is written with plain characters only, those that may stand outside of double quotes. Such a
text has no mark at its start, and its line ends are none of those that are rewritten; so it is
read as it was written. The names of fields hold still fewer characters.

## Main definitions

* `BeginsToken` - a text with nothing in front of its first token.
* `IsKey` - the name of a field.

## Main results

* `isGap_eq_false` - the only blank among the plain characters is the space.
* `prepared_eq_self` - a plain text is not changed before it is read.
-/

namespace Scaffold.Yaml

variable {c : Char} {cs : List Char}

/-- A text **begins with a token**, or is empty: it does not begin with a blank, the end of a line,
a comment or the mark of a text. -/
def BeginsToken (cs : List Char) : Prop :=
  ∀ c ∈ cs.head?, isGap c = false ∧ isBreak c = false ∧ c ≠ '#' ∧ c ≠ byteOrderMark

/-- The first character decides. -/
theorem beginsToken_cons :
    BeginsToken (c :: cs) ↔
      isGap c = false ∧ isBreak c = false ∧ c ≠ '#' ∧ c ≠ byteOrderMark := by
  simp [BeginsToken]

/-- Every plain character may be read. -/
theorem isReadable_of_isPlainChar (h : isPlainChar c = true) : isReadable c = true := by
  simp only [isPlainChar, isReadable, Bool.or_eq_true, Bool.and_eq_true, decide_eq_true_eq] at h ⊢
  omega

/-- A character that is not plain is not among those that are. -/
theorem ne_of_isPlainChar (h : isPlainChar c = true) {d : Char} (hd : isPlainChar d = false) :
    c ≠ d := by
  rintro rfl
  rw [h] at hd
  cases hd

/-- The only blank that is plain is the **space**. -/
theorem isGap_eq_false (h : isPlainChar c = true) (hspace : c ≠ ' ') : isGap c = false := by
  rw [isGap, decide_eq_false hspace, decide_eq_false (ne_of_isPlainChar h (by decide))]
  rfl

/-- Line ends of plain texts are **not rewritten**. -/
theorem normalize_eq_self (h : ∀ c ∈ cs, isPlainChar c = true) : normalize cs = cs := by
  fun_induction normalize cs with
  | case1 => rfl
  | case2 rest => exact absurd (h '\r' List.mem_cons_self) (by decide)
  | case3 c rest _ ih =>
    obtain ⟨hc, hrest⟩ := List.forall_mem_cons.1 h
    rw [ih hrest, if_neg]
    rintro (rfl | rfl) <;> exact absurd hc (by decide)

/-- A plain text is **read as it is**. -/
theorem prepared_eq_self (h : ∀ c ∈ cs, isPlainChar c = true) : prepared cs = cs := by
  have hmark : cs.head? ≠ some byteOrderMark := fun hhead =>
    absurd (h _ (List.mem_of_mem_head? hhead)) (by decide)
  rw [prepared, if_neg hmark, normalize_eq_self h]

/-- The end of a word, in front of a line feed or at the end of the text. -/
theorem endsWord_append (cs more : List Char) : endsWord (cs ++ '\n' :: more) = endsWord cs := by
  cases cs <;> rfl

/-! ### Names -/

/-- Whether a character is one of the name of a field: a small letter or an underscore. -/
def isKeyChar (c : Char) : Bool :=
  c.isLower || c = '_'

/-- A character of a name is none that is not one. -/
theorem ne_of_isKeyChar (h : isKeyChar c = true) {d : Char} (hd : isKeyChar d = false) : c ≠ d := by
  rintro rfl
  rw [h] at hd
  cases hd

/-- A character of a name ends no line. -/
theorem isBreak_of_isKeyChar (h : isKeyChar c = true) : isBreak c = false := by
  rw [isBreak, decide_eq_false (ne_of_isKeyChar h (by decide)),
    decide_eq_false (ne_of_isKeyChar h (by decide)),
    decide_eq_false (ne_of_isKeyChar h (by decide))]
  rfl

/-- A character of a name is no blank. -/
theorem isGap_of_isKeyChar (h : isKeyChar c = true) : isGap c = false := by
  rw [isGap, decide_eq_false (ne_of_isKeyChar h (by decide)),
    decide_eq_false (ne_of_isKeyChar h (by decide))]
  rfl

/-- A character of a name is plain. -/
theorem isPlainChar_of_isKeyChar (h : isKeyChar c = true) : isPlainChar c = true := by
  rcases Bool.or_eq_true_iff.1 h with h | h
  · obtain ⟨hlow, hhigh⟩ := Bool.and_eq_true_iff.1 h
    have hrange : 97 ≤ c.toNat ∧ c.toNat ≤ 122 := ⟨of_decide_eq_true hlow, of_decide_eq_true hhigh⟩
    simp only [isPlainChar, Bool.or_eq_true, Bool.and_eq_true, decide_eq_true_eq]
    omega
  · rw [of_decide_eq_true h]
    decide

/-- The **name of a field**: some small letters and underscores, few enough for a key. -/
structure IsKey (name : List Char) : Prop where
  ne_nil : name ≠ []
  chars : ∀ c ∈ name, isKeyChar c = true
  length_le : name.length ≤ Lexer.keyReach

end Scaffold.Yaml
