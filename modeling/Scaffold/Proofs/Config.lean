import Scaffold.Config
import Scaffold.Proofs.Text.Blank

/-!
# The name of the trait

The name of a trait is what stands behind the last separator of its path, the `::` behind which no
other begins. Where colons stand in a row, separators overlap, and the last one is made of the last
two of them. White space around a path belongs to no separator, and the name is trimmed of it.

## Main definitions

* `EndsIn` - the part of a text behind its last separator.

## Main results

* `lastSegment_eq_iff` - the segment that is found is that part.
* `EndsIn.exists_surrounded` - white space around a text changes it by white space.
* `traitName_of_notMem` - a trait without colons in its path is named by the whole path.
* `traitName_of_append` - any other trait is named by what stands behind the last two colons.
* `validate_eq_ok_iff`, `validate_eq_error_iff` - when a configuration is valid.
-/

namespace Scaffold.Config

/-- A text **ends in a segment**: all of it is the segment if no separator stands in it, and what
stands behind a separator is if no other begins at the second colon of this one or later. -/
inductive EndsIn : List Char → List Char → Prop
  | whole {cs : List Char} : ¬ [':', ':'] <:+: cs → EndsIn cs cs
  | behind {front part : List Char} :
      ¬ [':', ':'] <:+: ':' :: part → EndsIn (front ++ ':' :: ':' :: part) part

/-! ### Separators -/

section Separator

variable {cs front back part : List Char}

/-- White space has no colons. -/
theorem colon_notMem_of_isBlank (h : ∀ c ∈ cs, Text.isBlank c = true) : ':' ∉ cs :=
  fun hc => absurd (h ':' hc) (by decide)

/-- Where there are no colons there is no separator. -/
theorem not_infix_of_notMem (h : ':' ∉ cs) : ¬ [':', ':'] <:+: cs :=
  fun hseparator => h (hseparator.subset List.mem_cons_self)

/-- No separator begins in front of a text where there are no colons. -/
theorem separator_infix_append_iff (h : ':' ∉ front) :
    [':', ':'] <:+: front ++ cs ↔ [':', ':'] <:+: cs := by
  induction front with
  | nil => rfl
  | cons c front ih =>
      obtain ⟨hc, hfront⟩ := not_or.1 (mt List.mem_cons.2 h)
      rw [List.cons_append, List.infix_cons_iff, ih hfront]
      exact or_iff_right fun hprefix => hc (List.cons_prefix_cons.1 hprefix).1

/-- None ends behind a text where there are none. -/
theorem separator_infix_append_right_iff (h : ':' ∉ back) :
    [':', ':'] <:+: cs ++ back ↔ [':', ':'] <:+: cs := by
  have hreverse : [':', ':'].reverse <:+: back.reverse ++ cs.reverse ↔
      [':', ':'].reverse <:+: cs.reverse := separator_infix_append_iff (mt List.mem_reverse.1 h)
  rwa [← List.reverse_append, List.reverse_infix, List.reverse_infix] at hreverse

/-- A colon alone is no separator, and is none with a text without colons behind it. -/
theorem not_infix_cons_of_notMem (h : ':' ∉ part) : ¬ [':', ':'] <:+: ':' :: part :=
  mt (@separator_infix_append_right_iff [':'] part h).1 (by decide)

end Separator

/-! ### The last segment -/

section Segment

variable {cs front back part : List Char}

/-- Nothing stands behind the last separator **just if there is none**. -/
theorem afterSeparator?_eq_none_iff : afterSeparator? cs = none ↔ ¬ [':', ':'] <:+: cs := by
  induction cs with
  | nil => exact iff_of_true rfl (by decide)
  | cons c cs ih =>
      rw [afterSeparator?, List.infix_cons_iff, not_or, ← ih, ← List.isPrefixOf_iff_prefix]
      cases afterSeparator? cs with
      | some part => simp
      | none => cases [':', ':'].isPrefixOf (c :: cs) <;> simp

/-- What stands behind a separator, if no other begins later. -/
theorem afterSeparator?_append (front : List Char) (h : ¬ [':', ':'] <:+: ':' :: part) :
    afterSeparator? (front ++ ':' :: ':' :: part) = some part := by
  induction front with
  | nil =>
      rw [List.nil_append, afterSeparator?, afterSeparator?_eq_none_iff.2 h]
      rfl
  | cons c front ih =>
      rw [List.cons_append, afterSeparator?, ih]

/-- What is found behind a separator stands there, and no other begins later. -/
theorem endsIn_of_afterSeparator? (h : afterSeparator? cs = some part) : EndsIn cs part := by
  suffices hfront : ∃ front, cs = front ++ ':' :: ':' :: part ∧ ¬ [':', ':'] <:+: ':' :: part by
    obtain ⟨front, rfl, hpart⟩ := hfront
    exact .behind hpart
  induction cs with
  | nil => cases h
  | cons c cs ih =>
      rw [afterSeparator?] at h
      split at h
      · next hrest =>
        obtain ⟨front, hcs, hpart⟩ := ih (hrest.trans h)
        exact ⟨c :: front, congrArg (c :: ·) hcs, hpart⟩
      · next hrest =>
        split at h
        · next hfirst =>
          obtain ⟨rest, hcs⟩ := List.isPrefixOf_iff_prefix.1 hfirst
          cases hcs
          cases h
          exact ⟨[], rfl, afterSeparator?_eq_none_iff.1 hrest⟩
        · cases h

/-- The segment that is found is **the one that a text ends in**. -/
theorem lastSegment_eq_iff : lastSegment cs = part ↔ EndsIn cs part := by
  constructor
  · rintro rfl
    rw [lastSegment]
    cases h : afterSeparator? cs with
    | none => exact .whole (afterSeparator?_eq_none_iff.1 h)
    | some part => exact endsIn_of_afterSeparator? h
  · intro h
    cases h with
    | whole h => rw [lastSegment, afterSeparator?_eq_none_iff.2 h, Option.getD_none]
    | behind h => rw [lastSegment, afterSeparator?_append _ h, Option.getD_some]

/-- Every text ends in a segment. -/
theorem endsIn_lastSegment (cs : List Char) : EndsIn cs (lastSegment cs) :=
  lastSegment_eq_iff.1 rfl

namespace EndsIn

/-- There is no separator in such a segment. -/
theorem undivided (h : EndsIn cs part) : ¬ [':', ':'] <:+: part := by
  cases h with
  | whole h => exact h
  | behind h => exact mt List.infix_cons h

/-- **White space around a text** changes the segment by white space only. -/
theorem exists_surrounded (h : EndsIn cs part) (hfront : ∀ c ∈ front, Text.isBlank c = true)
    (hback : ∀ c ∈ back, Text.isBlank c = true) :
    ∃ surrounded, EndsIn (front ++ cs ++ back) surrounded ∧
      Text.trim surrounded = Text.trim part := by
  have hright {ds : List Char} :=
    @separator_infix_append_right_iff ds _ (colon_notMem_of_isBlank hback)
  cases h with
  | whole h =>
      refine ⟨front ++ cs ++ back, .whole ?_, ?_⟩
      · rwa [hright, separator_infix_append_iff (colon_notMem_of_isBlank hfront)]
      · rw [Text.trim_append_blank hback, Text.trim_blank_append hfront]
  | @behind before part h =>
      refine ⟨part ++ back, ?_, Text.trim_append_blank hback part⟩
      have hpart : ¬ [':', ':'] <:+: ':' :: (part ++ back) := mt (@hright (':' :: part)).1 h
      have hends := @behind (front ++ before) _ hpart
      simp only [List.append_assoc, List.cons_append] at hends ⊢
      exact hends

end EndsIn

end Segment

/-! ### The name -/

section Name

variable {config : Config} {part : List Char}

/-- The name is the **segment that the path ends in**, trimmed. -/
theorem traitName_of_endsIn (h : EndsIn config.handlerTrait.toList part) :
    config.traitName = String.ofList (Text.trim part) := by
  rw [traitName, lastSegment_eq_iff.2 h]

/-- A path **without colons** names the trait as a whole. -/
theorem traitName_of_notMem (h : ':' ∉ config.handlerTrait.toList) :
    config.traitName = Text.trimmed config.handlerTrait :=
  traitName_of_endsIn (.whole (not_infix_of_notMem h))

/-- Any other path names it **behind the last two colons**. -/
theorem traitName_of_append {cs rest : List Char}
    (hpath : config.handlerTrait.toList = cs ++ ':' :: ':' :: rest) (h : ':' ∉ rest) :
    config.traitName = String.ofList (Text.trim rest) := by
  refine traitName_of_endsIn ?_
  rw [hpath]
  exact .behind (not_infix_cons_of_notMem h)

/-- The name is empty just if there is **only white space behind the last separator**. -/
theorem traitName_eq_empty_iff :
    config.traitName = "" ↔
      ∃ part, EndsIn config.handlerTrait.toList part ∧ ∀ c ∈ part, Text.isBlank c = true := by
  constructor
  · intro h
    have hpart := endsIn_lastSegment config.handlerTrait.toList
    rw [traitName_of_endsIn hpart] at h
    exact ⟨_, hpart, Text.trim_eq_nil_iff.1 (String.ofList_injective h)⟩
  · rintro ⟨part, hpart, hblank⟩
    rw [traitName_of_endsIn hpart, Text.trim_eq_nil_iff.2 hblank, String.ofList_nil]

/-- A configuration is valid if its trait has a name. -/
theorem validate_eq_ok (h : config.traitName ≠ "") : config.validate = .ok () := by
  rw [validate, if_neg]
  rw [String.isEmpty_iff]
  exact h

/-- It is refused **just if its trait has none**, and the trait is reported as it was given. -/
theorem validate_eq_error_iff {e : Error} :
    config.validate = .error e ↔ e = .config config.handlerTrait ∧ config.traitName = "" := by
  by_cases h : config.traitName = ""
  · rw [validate, if_pos (String.isEmpty_iff.2 h), Except.error.injEq, and_iff_left h, eq_comm]
  · rw [validate_eq_ok h]
    exact iff_of_false nofun fun hname => h hname.2

/-- It is valid **just if its trait has a name**. -/
theorem validate_eq_ok_iff : config.validate = .ok () ↔ config.traitName ≠ "" := by
  refine ⟨fun hvalid hname => ?_, validate_eq_ok⟩
  cases hvalid.symm.trans (validate_eq_error_iff.2 ⟨rfl, hname⟩)

end Name

end Scaffold.Config
