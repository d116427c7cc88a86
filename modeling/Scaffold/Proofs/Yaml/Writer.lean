import Scaffold.Proofs.Yaml.Scalar.Block

/-!
# Written texts

A text is written in the first style that can hold it. Whatever it holds, only plain characters are
written for it: the others are escaped between double quotes.

## Main results

* `styleOf_cases` - what is known of a text by its style.
* `all_writeMapping` - only plain characters are written for a mapping.
-/

namespace Scaffold.Yaml

variable {name cs : List Char} {entries : List (List Char × Option (List Char))}

/-! ### Styles -/

/-- A text **can be written in its style**, and in plain style it is not taken for anything else. -/
theorem styleOf_cases {motive : Style → Prop} (cs : List Char)
    (plain : isAmbiguous cs = false → allowsPlain cs = true → motive .plain)
    (singleQuoted : allowsSingle cs = true → '\n' ∉ cs → motive .singleQuoted)
    (doubleQuoted : motive .doubleQuoted)
    (literal : allowsLines cs = true → cs ≠ [] → motive .literal) : motive (styleOf cs) := by
  unfold styleOf
  split
  case isTrue hfeed =>
    split
    case isTrue hlines => exact literal hlines (by rintro rfl; cases hfeed)
    case isFalse => exact doubleQuoted
  case isFalse hfeed =>
    split
    case isTrue hplain =>
      obtain ⟨hambiguous, hplain⟩ := Bool.and_eq_true_iff.1 hplain
      exact plain (Bool.not_eq_true' _ ▸ hambiguous) hplain
    case isFalse =>
      split
      case isTrue hsingle => exact singleQuoted hsingle fun h => hfeed (List.contains_iff_mem.2 h)
      case isFalse => exact doubleQuoted

/-! ### Characters of scalars -/

/-- The margin of a line is plain. -/
theorem all_margin (atStart : Bool) :
    (if atStart then margin else []).all isPlainChar = true := by
  cases atStart <;> decide

/-- Single quotes hold plain characters **if the text does**. -/
theorem all_writeSingle (behindBreak : Bool) (cs : List Char) :
    (writeSingle behindBreak cs).all isPlainChar = cs.all isPlainChar := by
  induction cs generalizing behindBreak with
  | nil => exact all_margin behindBreak
  | cons c cs ih =>
    have hquote : (if c = '\'' then ['\'', '\''] else [c]).all isPlainChar = isPlainChar c := by
      split
      · subst c
        decide
      · simp
    rw [writeSingle]
    split
    · simp only [List.all_cons, ih]
    · simp only [List.all_append, List.all_cons, all_margin, hquote, ih, Bool.true_and]

/-- Indented lines hold plain characters **if the text does**. -/
theorem all_writeLines (atStart : Bool) (cs : List Char) :
    (writeLines atStart cs).all isPlainChar = cs.all isPlainChar := by
  induction cs generalizing atStart with
  | nil => rfl
  | cons c cs ih =>
    rw [writeLines]
    split
    · simp only [List.all_cons, ih]
    · simp only [List.all_append, List.all_cons, all_margin, ih, Bool.true_and]

/-- The header and the end of indented lines are plain. -/
theorem all_linesHeader (cs : List Char) :
    (linesHeader cs).all isPlainChar = true ∧ (endLine cs).all isPlainChar = true := by
  constructor
  · rw [Block.linesHeader_eq]
    cases Block.hidesIndent cs <;> cases Block.chompOf cs <;> decide
  · rw [endLine]
    split <;> decide

/-- The digits of a number are plain. -/
theorem all_hexDigits (places n : Nat) : (hexDigits places n).all isPlainChar = true := by
  have hdigit : ∀ d < 16, isPlainChar (hexDigit d) = true := by decide
  induction places generalizing n with
  | zero => rfl
  | succ places ih =>
    rw [hexDigits, List.all_append, ih, List.all_cons, hdigit _ (Nat.mod_lt _ (by decide))]
    rfl

/-- Double quotes hold **plain characters only**. -/
theorem all_writeDoubleChar (c : Char) : (writeDoubleChar c).all isPlainChar = true := by
  unfold writeDoubleChar
  cases hescape : escapeLetter? c with
  | some letter =>
    unfold escapeLetter? at hescape
    split at hescape
    all_goals first | (cases hescape; decide) | cases hescape
  | none =>
    cases hplain : isPlainChar c with
    | true => simp [hplain]
    | false =>
      change (numericEscape c.toNat).all isPlainChar = true
      unfold numericEscape
      split
      · exact all_hexDigits 2 _
      · split
        · exact all_hexDigits 4 _
        · exact all_hexDigits 8 _

/-- Only **plain characters** are written for a text. -/
theorem all_writeText (cs : List Char) : (writeText cs).all isPlainChar = true := by
  have hfeed : isPlainChar '\n' = true := by decide
  have hsingle : isPlainChar '\'' = true := by decide
  have hdouble : isPlainChar '"' = true := by decide
  refine styleOf_cases (motive := fun style => (writeStyled style cs).all isPlainChar = true) cs
    (fun _ h => ?plain) (fun h _ => ?singleQuoted) ?doubleQuoted (fun h _ => ?literal)
  case plain =>
    simp only [allowsPlain, Bool.and_eq_true, List.all_eq_true] at h
    obtain ⟨⟨⟨⟨hplain, -⟩, -⟩, -⟩, -⟩ := h
    rw [writeStyled, List.all_append, List.all_eq_true.2 fun c hc => (hplain c hc).1]
    decide
  case singleQuoted =>
    simp only [allowsSingle, Bool.and_eq_true] at h
    simp [writeStyled, all_writeSingle, h, hfeed, hsingle]
  case doubleQuoted =>
    simp [writeStyled, List.all_flatMap, all_writeDoubleChar, hfeed, hdouble]
  case literal =>
    simp only [allowsLines, Bool.and_eq_true] at h
    obtain ⟨hheader, hend⟩ := all_linesHeader cs
    rw [writeStyled, List.all_append, List.all_append, hheader, hend, all_writeLines, h.1.1]
    rfl

/-- Only **plain characters** are written for a mapping. -/
theorem all_writeMapping (hnames : ∀ entry ∈ entries, IsKey entry.1) :
    (writeMapping entries).all isPlainChar = true := by
  rw [writeMapping, List.all_flatMap, List.all_eq_true]
  rintro ⟨name, value⟩ hentry
  have hname : name.all isPlainChar = true :=
    List.all_eq_true.2 fun c hc => isPlainChar_of_isKeyChar ((hnames _ hentry).chars c hc)
  have hvalue : (writeOptional value).all isPlainChar = true := by
    cases value with
    | none => decide
    | some cs => exact all_writeText cs
  rw [List.all_append, List.all_cons, List.all_cons, hname, hvalue]
  decide

end Scaffold.Yaml
