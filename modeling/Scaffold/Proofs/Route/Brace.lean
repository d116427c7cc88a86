import Mathlib.Data.List.TakeWhile
import Scaffold.Proofs.Route.Template

/-!
# Patterns with braces in any number and order

Templates come from documents as they are, so a segment of one can have braces in any number
and order. By the **grammar of segments** a pattern has a placeholder if an opening brace is
followed, later, by a closing one; the placeholder then reaches from the first opening brace to
the first closing one behind it, and all else is literal text. A pattern without such a pair is
literal text as a whole.

## Main results

* `Braced.unique`: where the placeholder of a pattern stands is determined.
* `matchSegment_iff_grammarScore`: patterns are matched by the grammar where no closing brace
  stands in front of the first opening one.
* `matchSegment_inverted_iff`: what is matched where one does. The closing brace is then looked
  for from the start of the pattern, so that the text between it and the opening brace is taken
  for literal text twice.
* `matchSegment_follows_grammar_iff`: the grammar is followed at no pattern of the second kind.
-/

namespace Scaffold.Route

open Text (Utf8.size)

/-! ### The grammar of segments -/

/-- An opening brace of the pattern is followed, later, by a closing one. -/
def HasPair (pattern : List Char) : Prop :=
  ∃ before name behind, pattern = before ++ '{' :: (name ++ '}' :: behind)

/-- The pattern is literal text, a placeholder and literal text: `before` ends at the **first
opening brace**, and `behind` begins after the **first closing one behind it**. -/
def Braced (pattern before behind : List Char) : Prop :=
  ∃ name, pattern = before ++ '{' :: (name ++ '}' :: behind) ∧ '{' ∉ before ∧ '}' ∉ name

/-- **The score of a segment by the grammar.** Literal text matches itself, and a placeholder
any value that is not empty; the score is the number of bytes of literal text. -/
inductive GrammarScore (pattern : List Char) : List Char → Nat → Prop
  | literal : ¬ HasPair pattern → GrammarScore pattern pattern (Utf8.size pattern)
  | placeholder {before behind v : List Char} : Braced pattern before behind → v ≠ [] →
      GrammarScore pattern (before ++ v ++ behind) (Utf8.size before + Utf8.size behind)

/-- A closing brace behind the first opening one is that of a placeholder, or comes after it. -/
theorem exists_braced {pattern : List Char} (h : '}' ∈ pattern.dropWhile (· ≠ '{')) :
    ∃ before behind, Braced pattern before behind := by
  have hopen : '{' ∈ pattern := by
    by_contra hnotMem
    rw [List.dropWhile_eq_nil_iff.2 fun c hc =>
      decide_eq_true (ne_of_mem_of_not_mem hc hnotMem)] at h
    cases h
  obtain ⟨before, rest, rfl, hbefore⟩ := List.eq_append_cons_of_mem hopen
  rw [List.dropWhile_append_of_pos fun c hc =>
    decide_eq_true (ne_of_mem_of_not_mem hc hbefore)] at h
  have hclose : '}' ∈ rest := by simpa using h
  obtain ⟨name, behind, rfl, hname⟩ := List.eq_append_cons_of_mem hclose
  exact ⟨before, behind, name, rfl, hbefore, hname⟩

/-- A pair of braces is found by looking for the closing one behind the first opening one. -/
theorem hasPair_iff_mem {pattern : List Char} :
    HasPair pattern ↔ '}' ∈ pattern.dropWhile (· ≠ '{') := by
  constructor
  · rintro ⟨before, name, behind, rfl⟩
    induction before with
    | nil => simp
    | cons c before ih =>
        by_cases hc : c = '{'
        · simp [hc]
        · rwa [List.cons_append, List.dropWhile_cons_of_pos (by simpa using hc)]
  · intro h
    obtain ⟨before, behind, name, heq, -⟩ := exists_braced h
    exact ⟨before, name, behind, heq⟩

instance (pattern : List Char) : Decidable (HasPair pattern) :=
  decidable_of_iff _ hasPair_iff_mem.symm

/-- A pattern has **one placeholder** by the grammar. -/
theorem Braced.unique {pattern before behind before' behind' : List Char}
    (h : Braced pattern before behind) (h' : Braced pattern before' behind') :
    before = before' ∧ behind = behind' := by
  obtain ⟨name, rfl, hbefore, hname⟩ := h
  obtain ⟨name', heq, hbefore', hname'⟩ := h'
  obtain ⟨rfl, hrest⟩ := Text.append_cons_inj hbefore hbefore' heq
  exact ⟨rfl, (Text.append_cons_inj hname hname' hrest).2⟩

/-! ### Braces in order -/

/-- A **closing brace stands in front of the first opening one**. -/
def Inverted (pattern : List Char) : Prop :=
  '{' ∈ pattern ∧ '}' ∈ lead pattern

instance (pattern : List Char) : Decidable (Inverted pattern) :=
  inferInstanceAs (Decidable (_ ∧ _))

/-- Where no closing brace stands in front of the first opening one, a pattern with both has a
pair of them, and the texts around the placeholder are those of the grammar. -/
theorem braced_lead_trail {pattern : List Char} (h : ¬ Inverted pattern)
    (hp : HasPlaceholder pattern) : Braced pattern (lead pattern) (trail pattern) := by
  obtain ⟨hopen, hclose⟩ := hp
  obtain ⟨before, rest, rfl, hbefore⟩ := List.eq_append_cons_of_mem hopen
  have hlead : lead (before ++ '{' :: rest) = before := lead_append_cons hbefore rest
  have hnotMem : '}' ∉ before := fun hmem => h ⟨hopen, hlead.symm ▸ hmem⟩
  have hmem : '}' ∈ rest := by simpa [hnotMem] using hclose
  obtain ⟨name, behind, rfl, hname⟩ := List.eq_append_cons_of_mem hmem
  obtain ⟨-, -, htrail⟩ := hasPlaceholder_braces behind hbefore hnotMem hname
  rw [hlead, htrail]
  exact ⟨name, rfl, hbefore, hname⟩

/-- **Braces in order are matched by the grammar**: where no closing brace stands in front of
the first opening one, the score of a segment is that of the grammar. -/
theorem matchSegment_iff_grammarScore {pattern segment : List Char} {n : Nat}
    (h : ¬ Inverted pattern) :
    matchSegment pattern segment = some n ↔ GrammarScore pattern segment n := by
  rw [matchSegment_eq_some_iff]
  constructor
  · rintro (⟨hp, v, hv, rfl, rfl⟩ | ⟨hp, rfl, rfl⟩)
    · exact .placeholder (braced_lead_trail h hp) hv
    · refine .literal ?_
      rintro ⟨before, name, behind, rfl⟩
      exact hp ⟨by simp, by simp⟩
  · rintro (hpair | ⟨hbraced, hv⟩)
    · refine .inr ⟨fun hp => hpair ?_, rfl, rfl⟩
      obtain ⟨name, heq, -⟩ := braced_lead_trail h hp
      exact ⟨_, name, _, heq⟩
    · have hp : HasPlaceholder pattern := by
        obtain ⟨name, rfl, -⟩ := hbraced
        exact ⟨by simp, by simp⟩
      obtain ⟨rfl, rfl⟩ := hbraced.unique (braced_lead_trail h hp)
      exact .inl ⟨hp, _, hv, rfl, rfl⟩

/-! ### A closing brace in front -/

/-- The form of a pattern in which a closing brace stands in front of the first opening one. -/
theorem Inverted.cases {pattern : List Char} (h : Inverted pattern) :
    ∃ a b c, pattern = a ++ '}' :: (b ++ '{' :: c) ∧ '}' ∉ a ∧ '{' ∉ a ∧ '{' ∉ b := by
  obtain ⟨hopen, hclose⟩ := h
  obtain ⟨before, c, rfl, hbefore⟩ := List.eq_append_cons_of_mem hopen
  rw [lead_append_cons hbefore] at hclose
  obtain ⟨a, b, rfl, ha⟩ := List.eq_append_cons_of_mem hclose
  simp only [List.mem_append, List.mem_cons, not_or] at hbefore
  refine ⟨a, b, c, ?_, ha, hbefore.1, hbefore.2.2⟩
  rw [List.append_assoc, List.cons_append]

/-- **What is matched where a closing brace comes first**: a value between two texts, of which
the first ends and the second begins with the text between the braces. -/
theorem matchSegment_inverted_iff {a b c segment : List Char} {n : Nat} (hac : '}' ∉ a)
    (hao : '{' ∉ a) (hb : '{' ∉ b) :
    matchSegment (a ++ '}' :: (b ++ '{' :: c)) segment = some n ↔
      ∃ v, v ≠ [] ∧ segment = (a ++ '}' :: b) ++ v ++ (b ++ '{' :: c) ∧
        n = Utf8.size (a ++ '}' :: b) + Utf8.size (b ++ '{' :: c) := by
  have hp : HasPlaceholder (a ++ '}' :: (b ++ '{' :: c)) := ⟨by simp, by simp⟩
  have hopen : '{' ∉ a ++ '}' :: b := by simp [hao, hb]
  have hlead : lead (a ++ '}' :: (b ++ '{' :: c)) = a ++ '}' :: b := by
    rw [← List.cons_append, ← List.append_assoc, lead_append_cons hopen]
  rw [matchSegment_eq_some_iff, hlead, trail_append_cons hac]
  simp only [hp, true_and, not_true_eq_false, false_and, or_false]

/-- A segment that is matched where a closing brace comes first is longer than the pattern. -/
theorem length_lt_of_inverted {pattern segment : List Char} {n : Nat} (h : Inverted pattern)
    (hmatch : matchSegment pattern segment = some n) : pattern.length < segment.length := by
  obtain ⟨a, b, c, rfl, hac, hao, hb⟩ := h.cases
  obtain ⟨v, hv, rfl, -⟩ := (matchSegment_inverted_iff hac hao hb).1 hmatch
  have hlength := List.length_pos_iff.2 hv
  simp only [List.length_append, List.length_cons]
  omega

/-- By the grammar every pattern matches a segment that is no longer than the pattern: itself,
or its literal texts around one character. -/
theorem exists_grammarScore (pattern : List Char) :
    ∃ segment n, GrammarScore pattern segment n ∧ segment.length ≤ pattern.length := by
  by_cases h : HasPair pattern
  · obtain ⟨before, behind, hbraced⟩ := exists_braced (hasPair_iff_mem.1 h)
    refine ⟨_, _, .placeholder (v := ['x']) hbraced (by simp), ?_⟩
    obtain ⟨name, rfl, -⟩ := hbraced
    simp only [List.length_append, List.length_cons, List.length_nil]
    omega
  · exact ⟨pattern, _, .literal h, Nat.le_refl _⟩

/-- **Where the grammar is followed.** The segments that a pattern matches and their scores are
those of the grammar exactly if no closing brace stands in front of the first opening one. -/
theorem matchSegment_follows_grammar_iff (pattern : List Char) :
    (∀ segment n, matchSegment pattern segment = some n ↔ GrammarScore pattern segment n) ↔
      ¬ Inverted pattern := by
  constructor
  · intro hfollows hinverted
    obtain ⟨segment, n, hscore, hlength⟩ := exists_grammarScore pattern
    have hlt := length_lt_of_inverted hinverted ((hfollows segment n).2 hscore)
    omega
  · intro h segment n
    exact matchSegment_iff_grammarScore h

/-- A pattern whose only braces are a closing and an opening one is literal text by the grammar,
and does **not match itself**. -/
theorem matchSegment_closing_first :
    GrammarScore ['}', '{'] ['}', '{'] 2 ∧ matchSegment ['}', '{'] ['}', '{'] = none :=
  ⟨.literal (by decide), by decide⟩

end Scaffold.Route
