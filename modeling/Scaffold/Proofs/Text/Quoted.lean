import Scaffold.Text.Quoted

/-!
# Quotations read back

What `quoteChars` writes, `Quoted.read` reads: every character comes back from its escape,
whatever it is, and the closing quote ends the text.

## Main results

* `readFrom_escape` - an escape gives its character back.
* `read_quoted` - a quotation gives its text back.
-/

namespace Scaffold.Text.Quoted

/-! ### Steps of the reader -/

/-- A step that only changes the mode. -/
theorem readFrom_go {rules : Rules} {mode m : Mode} {c : Char} {cs : List Char}
    (h : rules.step mode c = .go m) :
    readFrom rules mode (c :: cs) = readFrom rules m cs := by
  rw [readFrom, h]

/-- A step that completes a character. -/
theorem readFrom_emit {rules : Rules} {mode : Mode} {c d : Char} {cs : List Char}
    (h : rules.step mode c = .emit d) :
    readFrom rules mode (c :: cs) =
      (readFrom rules .text cs).map fun x => (d :: x.1, x.2) := by
  rw [readFrom, h]

/-- A character is given by its own value. -/
theorem value_toNat (c : Char) : Rules.text.value c.toNat = .emit c := by
  have hzero : Rules.text.hasZero = true := rfl
  rw [Rules.value, if_pos ⟨c.valid, .inr hzero⟩, Char.ofNat_toNat]

/-! ### Code points -/

/-- The value of a hexadecimal digit. -/
theorem hexValue?_digitChar {d : Nat} (h : d < 16) : hexValue? d.digitChar = some d := by
  have all : ∀ d < 16, hexValue? (Nat.digitChar d) = some d := by decide
  exact all d h

/-- A digit between the braces is **added to the value**, as long as there are not too many. -/
theorem step_code_digit {k v d : Nat} (hk : k < 6) (hd : d < 16) :
    Rules.text.step (.code k v) d.digitChar = .go (.code (k + 1) (16 * v + d)) := by
  have hclose : d.digitChar ≠ '}' := by
    have all : ∀ d < 16, Nat.digitChar d ≠ '}' := by decide
    exact all d hd
  have hgap : d.digitChar ≠ '_' := by
    have all : ∀ d < 16, Nat.digitChar d ≠ '_' := by decide
    exact all d hd
  simp only [Rules.step, hclose, hgap, hexValue?_digitChar hd, hk, false_and, if_false, if_true]

/-- The **digits of a number** leave the reader with its value. The induction removes the last
digit, which is the last one to be read. -/
theorem readFrom_hexDigits (n : Nat) :
    ∀ {rest : List Char}, (hexDigits n).length ≤ 6 →
      readFrom .text (.code 0 0) (hexDigits n ++ rest) =
        readFrom .text (.code (hexDigits n).length n) rest := by
  induction n using Nat.strongRecOn with
  | ind n ih =>
      intro rest hlength
      by_cases hn : n < 16
      · have hdigits : hexDigits n = [n.digitChar] := Nat.toDigits_of_lt_base hn
        rw [hdigits, List.singleton_append, readFrom_go (step_code_digit (by decide) hn)]
        simp
      · have hdigits : hexDigits n = hexDigits (n / 16) ++ [(n % 16).digitChar] :=
          Nat.toDigits_of_base_le (by decide) (by omega)
        rw [hdigits, List.length_append, List.length_singleton] at hlength
        have hlast : n % 16 < 16 := Nat.mod_lt n (by decide)
        rw [hdigits, List.append_assoc, ih (n / 16) (by omega) (by omega), List.singleton_append,
          readFrom_go (step_code_digit (by omega) hlast), List.length_append,
          List.length_singleton]
        congr 2
        omega

/-- The number of a character has **at most six digits**, and one at least. -/
theorem length_hexDigits (c : Char) :
    0 < (hexDigits c.toNat).length ∧ (hexDigits c.toNat).length ≤ 6 := by
  have hbound : c.toNat < 0x110000 := by
    have hvalid : c.toNat < 0xD800 ∨ (0xDFFF < c.toNat ∧ c.toNat < 0x110000) := c.valid
    omega
  refine ⟨Nat.length_toDigits_pos, ?_⟩
  exact (Nat.length_toDigits_le_iff (by decide) (by decide)).2 (by omega)

/-- An escape by number gives its character back. -/
theorem readFrom_code (c : Char) (rest : List Char) :
    readFrom .text .text ('\\' :: 'u' :: '{' :: hexDigits c.toNat ++ '}' :: rest) =
      (readFrom .text .text rest).map fun x => (c :: x.1, x.2) := by
  obtain ⟨hpos, hmax⟩ := length_hexDigits c
  have hclose : Rules.text.step (.code (hexDigits c.toNat).length c.toNat) '}' = .emit c := by
    rw [Rules.step, if_pos ⟨rfl, hpos⟩, value_toNat]
  rw [List.cons_append, readFrom_go (m := .escape) (by rfl), List.cons_append,
    readFrom_go (m := .codeOpen) (by rfl), List.cons_append,
    readFrom_go (m := .code 0 0) (by rfl), readFrom_hexDigits _ hmax, readFrom_emit hclose]

/-! ### Whole quotations -/

/-- Reads a character that is escaped by a letter. -/
theorem readFrom_named {letter c : Char} (h : named? letter = some c) (rest : List Char) :
    readFrom .text .text ('\\' :: letter :: rest) =
      (readFrom .text .text rest).map fun x => (c :: x.1, x.2) := by
  have hletter : Rules.text.step .escape letter = .emit c := by
    rw [Rules.step, Rules.escaped, h]
    exact value_toNat c
  rw [readFrom_go (m := .escape) (by rfl), readFrom_emit hletter]

/-- Every **escape gives its character back**. -/
theorem readFrom_escape (c : Char) (rest : List Char) :
    readFrom .text .text (escape c ++ rest) =
      (readFrom .text .text rest).map fun x => (c :: x.1, x.2) := by
  unfold escape
  split
  · exact readFrom_named rfl rest
  · exact readFrom_named rfl rest
  · exact readFrom_named rfl rest
  · exact readFrom_named rfl rest
  · exact readFrom_named rfl rest
  · exact readFrom_named rfl rest
  · next hreturn _ hquote hslash =>
      split
      · have hplain : Rules.text.step .text c = .emit c := by
          rw [Rules.step, Rules.plain, if_neg hquote, if_neg hslash, if_neg hreturn]
          rfl
        rw [List.singleton_append, readFrom_emit hplain]
      · rw [List.append_assoc, List.singleton_append]
        exact readFrom_code c rest

/-- A **quotation gives its text back**, and stops behind its closing quote. -/
theorem read_quoted (cs rest : List Char) :
    read .text (cs.flatMap escape ++ '"' :: rest) = some (cs, rest) := by
  rw [read]
  induction cs with
  | nil =>
      rfl
  | cons c cs ih =>
      rw [List.flatMap_cons, List.append_assoc, readFrom_escape, ih]
      rfl

end Scaffold.Text.Quoted
