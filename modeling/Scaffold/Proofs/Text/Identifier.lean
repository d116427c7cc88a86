import Scaffold.Text.Blank
import Scaffold.Text.Identifier

/-!
# The characters of identifiers

Identifiers are made of characters that are not white space, and of no mark, bracket, quote or
digit at their start. Outside of ASCII this is a fact about the tables of the Unicode
properties, and is checked on their spans.

## Main results

* `startsIdentifier_eq_false_of_isBlank`, `continuesIdentifier_eq_false_of_isBlank` - white
  space belongs to no identifier.
* `isDigit_eq_false_of_startsIdentifier` - a digit starts none.
-/

namespace Scaffold.Text

namespace CharSet

/-- Whether no span of one set meets one of another. -/
def isApart (a b : CharSet) : Bool :=
  a.spans.all fun s => b.spans.all fun t => s.2 < t.1 || t.2 < s.1

/-- Sets whose spans do not meet have **no character in common**. -/
theorem contains_eq_false_of_isApart {a b : CharSet} {c : Char} (h : isApart a b = true)
    (ha : a.contains c = true) : b.contains c = false := by
  rw [← Bool.not_eq_true, contains_iff]
  rintro ⟨t, ht, htc⟩
  obtain ⟨s, hs, hsc⟩ := contains_iff.1 ha
  have hst := List.all_eq_true.1 (List.all_eq_true.1 h s hs) t ht
  rw [Bool.or_eq_true, decide_eq_true_iff, decide_eq_true_iff] at hst
  omega

end CharSet

/-- White space has none of the characters that start an identifier. -/
theorem isApart_xidStart : CharSet.isApart whiteSpace xidStart = true := by
  decide +kernel

/-- White space has none of the characters that continue an identifier. -/
theorem isApart_xidContinue : CharSet.isApart whiteSpace xidContinue = true := by
  decide +kernel

/-- A blank of ASCII. -/
theorem toNat_of_isBlank {c : Char} (h : isBlank c = true) (hc : c.toNat < 0x80) :
    (9 ≤ c.toNat ∧ c.toNat ≤ 13) ∨ c.toNat = 32 := by
  obtain ⟨s, hs, hsc⟩ := CharSet.contains_iff.1 h
  simp only [whiteSpace, List.mem_cons, List.not_mem_nil, or_false] at hs
  rcases hs with rfl | rfl | rfl | rfl | rfl | rfl | rfl | rfl | rfl | rfl <;> omega

/-- Letters of ASCII, by their numbers. -/
theorem toNat_of_isAlpha {c : Char} (h : c.isAlpha = true) :
    (65 ≤ c.toNat ∧ c.toNat ≤ 90) ∨ (97 ≤ c.toNat ∧ c.toNat ≤ 122) := by
  change (decide (65 ≤ c.val ∧ c.val ≤ 90) ||
    (decide (97 ≤ c.val) && decide (c.val ≤ 122))) = true at h
  simp only [Bool.or_eq_true, decide_eq_true_eq, Bool.and_eq_true, UInt32.le_iff_toNat_le] at h
  exact h

/-- Digits, by their numbers. -/
theorem toNat_of_isDigit {c : Char} (h : c.isDigit = true) : 48 ≤ c.toNat ∧ c.toNat ≤ 57 := by
  simp only [Char.isDigit, decide_eq_true_eq, Bool.and_eq_true, UInt32.le_iff_toNat_le, ge_iff_le]
    at h
  exact h

/-- A character that starts an identifier is a letter, an underscore or no ASCII. -/
theorem toNat_of_startsIdentifier {c : Char} (h : startsIdentifier c = true) :
    (65 ≤ c.toNat ∧ c.toNat ≤ 90) ∨ (97 ≤ c.toNat ∧ c.toNat ≤ 122) ∨ c.toNat = 95
      ∨ 0x80 ≤ c.toNat := by
  unfold startsIdentifier at h
  split at h
  · rw [Bool.or_eq_true, beq_iff_eq] at h
    rcases h with h | rfl
    · have := toNat_of_isAlpha h
      omega
    · decide
  · omega

/-- **No digit starts an identifier.** -/
theorem isDigit_eq_false_of_startsIdentifier {c : Char} (h : startsIdentifier c = true) :
    c.isDigit = false := by
  rw [← Bool.not_eq_true]
  intro hdigit
  have hstart := toNat_of_startsIdentifier h
  have hnumber := toNat_of_isDigit hdigit
  omega

/-- **No blank starts an identifier.** -/
theorem startsIdentifier_eq_false_of_isBlank {c : Char} (h : isBlank c = true) :
    startsIdentifier c = false := by
  rw [← Bool.not_eq_true]
  intro hstart
  by_cases hc : c.toNat < 0x80
  · have hblank := toNat_of_isBlank h hc
    have := toNat_of_startsIdentifier hstart
    omega
  · rw [startsIdentifier, if_neg hc,
      CharSet.contains_eq_false_of_isApart isApart_xidStart h] at hstart
    cases hstart

/-- **No blank continues an identifier.** -/
theorem continuesIdentifier_eq_false_of_isBlank {c : Char} (h : isBlank c = true) :
    continuesIdentifier c = false := by
  rw [← Bool.not_eq_true]
  intro hcontinue
  by_cases hc : c.toNat < 0x80
  · have hblank := toNat_of_isBlank h hc
    rw [continuesIdentifier, if_pos hc, Char.isAlphanum, Bool.or_eq_true, Bool.or_eq_true,
      beq_iff_eq] at hcontinue
    rcases hcontinue with (halpha | hdigit) | rfl
    · have := toNat_of_isAlpha halpha
      omega
    · have := toNat_of_isDigit hdigit
      omega
    · revert hblank
      decide
  · rw [continuesIdentifier, if_neg hc,
      CharSet.contains_eq_false_of_isApart isApart_xidContinue h] at hcontinue
    cases hcontinue

end Scaffold.Text
