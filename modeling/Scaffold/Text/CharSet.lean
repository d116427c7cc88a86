/-!
# Sets of characters

A set of characters is a list of inclusive spans of code points, the form in which the
character properties of the Unicode standard are published. The property tables of this
library (`Text.Blank`, `Text.Printable`, `Text.Identifier`) are values of this one type.
-/

namespace Scaffold.Text

/-- A set of characters, given by **inclusive spans** of code points. -/
structure CharSet where
  /-- The spans, each as its first and last code point. -/
  spans : List (Nat × Nat)

namespace CharSet

/-- Whether a character lies in one of the spans. -/
def contains (s : CharSet) (c : Char) : Bool :=
  s.spans.any fun (first, last) => first ≤ c.toNat && c.toNat ≤ last

/-- A character belongs to a set exactly when one of the spans encloses it. -/
theorem contains_iff {s : CharSet} {c : Char} :
    s.contains c = true ↔ ∃ span ∈ s.spans, span.1 ≤ c.toNat ∧ c.toNat ≤ span.2 := by
  simp [contains]

end CharSet

end Scaffold.Text
