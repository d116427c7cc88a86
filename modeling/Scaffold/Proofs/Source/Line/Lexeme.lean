import Scaffold.Proofs.Source.Line.Token

/-!
# Lines of source

What a source is cut into up to the end of a line does not depend on the lines behind it, provided
that it can be cut by itself, so that no comment and no quotation is left open at the end of the
line.

## Main results

* `next?_append_line` - the first lexeme of a source does not depend on further lines.
* `Lexes.append_line_iff` - neither do its tokens, and the further lines are cut as they are.
* `tokens?_append_line` - so the tokens of the lines are those of the first and those of the rest.
-/

namespace Scaffold.Source

variable {u r w : List Char}

/-! ### Comments -/

/-- The end of a line makes no doc comment of an ordinary one. -/
theorem isDocLine_append_line (u w : List Char) : isDocLine (u ++ '\n' :: w) = isDocLine u := by
  rcases u with _ | ⟨c, _ | ⟨d, rest⟩⟩
  · rfl
  · by_cases hc : c = '!' ∨ c = '/'
    · rcases hc with rfl | rfl <;> rfl
    · simp [isDocLine, not_or.1 hc]
  · by_cases hc : c = '!' ∨ c = '/'
    · rcases hc with rfl | rfl
      · rfl
      · by_cases hd : d = '/'
        · subst hd
          rfl
        · simp [isDocLine, hd]
    · simp [isDocLine, not_or.1 hc]

/-- So it is with comments between marks. -/
theorem isDocBlock_append_line (u w : List Char) : isDocBlock (u ++ '\n' :: w) = isDocBlock u := by
  rcases u with _ | ⟨c, _ | ⟨d, rest⟩⟩
  · rfl
  · by_cases hc : c = '!' ∨ c = '*'
    · rcases hc with rfl | rfl <;> rfl
    · simp [isDocBlock, not_or.1 hc]
  · by_cases hc : c = '!' ∨ c = '*'
    · rcases hc with rfl | rfl
      · rfl
      · by_cases hd : d = '*' ∨ d = '/'
        · rcases hd with rfl | rfl <;> rfl
        · simp [isDocBlock, not_or.1 hd]
    · simp [isDocBlock, not_or.1 hc]

/-- The content of a line does not begin with the end of the line. -/
theorem lineContent_head?_ne (cs : List Char) : (lineContent cs).head? ≠ some '\n' := by
  cases cs with
  | nil => exact nofun
  | cons c cs =>
    rw [lineContent]
    split
    · exact nofun
    · next hend => exact fun hc => hend (.inl (Option.some.inj hc))

/-- The content of a line ends at its end, unless a carriage return stood there alone. -/
theorem lineContent_append_line (h : hasWholeLineEnds (lineContent u) = true) :
    lineContent (u ++ '\n' :: w) = lineContent u := by
  induction u with
  | nil => rfl
  | cons c u ih =>
    rw [lineContent] at h
    rw [List.cons_append, lineContent, lineContent]
    split at h
    · next hend =>
      have hend' : c = '\n' ∨ c = '\r' ∧ (u ++ '\n' :: w).head? = some '\n' :=
        hend.imp_right fun ⟨hc, hu⟩ => ⟨hc, by rw [List.head?_append, hu]; rfl⟩
      rw [if_pos hend, if_pos hend']
    · next hend =>
      rw [hasWholeLineEnds, Bool.and_eq_true] at h
      -- A carriage return would need a line feed behind it, which the content has not.
      have hc : c ≠ '\r' := by
        rintro rfl
        have hhead := lineContent_head?_ne u
        simp [hhead] at h
      have hc' : ¬ (c = '\n' ∨ c = '\r' ∧ (u ++ '\n' :: w).head? = some '\n') :=
        not_or.2 ⟨(not_or.1 hend).1, fun hreturn => hc hreturn.1⟩
      rw [if_neg hend, if_neg hc', ih h.2]

/-- The content of a line is no longer than the text that it begins. -/
theorem length_lineContent_le (cs : List Char) : (lineContent cs).length ≤ cs.length := by
  induction cs with
  | nil => exact Nat.le_refl _
  | cons c cs ih =>
    rw [lineContent]
    split
    · exact Nat.zero_le _
    · exact Nat.succ_le_succ ih

/-- A comment that is closed is read the same, whatever stands behind it. -/
theorem blockContent?_append {depth : Nat} {x : List Char × List Char}
    (h : blockContent? depth u = some x) (v : List Char) :
    blockContent? depth (u ++ v) = some (x.1, x.2 ++ v) := by
  fun_induction blockContent? depth u generalizing x with
  | case1 depth c d rest hopen ih =>
    obtain ⟨y, hy, rfl⟩ := Option.map_eq_some_iff.1 h
    unfold blockContent?
    dsimp only [List.cons_append]
    rw [if_pos hopen, ih hy, Option.map_some]
  | case2 c d rest hopen hclose =>
    cases h
    unfold blockContent?
    dsimp only [List.cons_append]
    rw [if_neg hopen, if_pos hclose]
  | case3 c d rest hopen hclose depth ih =>
    obtain ⟨y, hy, rfl⟩ := Option.map_eq_some_iff.1 h
    unfold blockContent?
    dsimp only [List.cons_append]
    rw [if_neg hopen, if_pos hclose, ih hy, Option.map_some]
  | case4 depth c d rest hopen hclose ih =>
    obtain ⟨y, hy, rfl⟩ := Option.map_eq_some_iff.1 h
    unfold blockContent?
    dsimp only [List.cons_append]
    rw [if_neg hopen, if_neg hclose, ← List.cons_append, ih hy, Option.map_some]
  | case5 => cases h

/-- A doc comment begins as every comment does. -/
theorem docComment?_of_startsComment (h : startsComment u = false) : docComment? u = none := by
  unfold docComment?
  split
  · cases h
  · cases h
  · rfl

/-- Nothing is dropped where a doc comment is read. -/
theorem dropSeparator?_of_docComment? {x : List Token × List Char} (h : docComment? u = some x) :
    dropSeparator? u = none := by
  unfold docComment? at h
  dsimp only at h
  split at h
  · split at h
    · next hdoc => exact if_pos hdoc
    · cases h
  · split at h
    · next hdoc => exact if_pos hdoc
    · cases h
  · cases h

/-- A doc comment is read the same with further lines behind it. -/
theorem docComment?_append_line {ts : List Token} (h : docComment? u = some (ts, r)) :
    docComment? (u ++ '\n' :: w) = some (ts, r ++ '\n' :: w) := by
  unfold docComment? at h
  dsimp only at h
  split at h
  · next kind rest =>
    split at h
    · next hdoc =>
      split at h
      · next hwhole =>
        cases h
        rw [← isDocLine_append_line _ w] at hdoc
        rw [List.cons_append, List.cons_append, List.cons_append, docComment?]
        dsimp only
        rw [← List.cons_append, if_pos hdoc, lineContent_append_line hwhole, if_pos hwhole,
          List.drop_append_of_le_length (length_lineContent_le rest)]
      · cases h
    · cases h
  · next kind rest =>
    split at h
    · next hdoc =>
      obtain ⟨x, hx, heq⟩ := Option.bind_eq_some_iff.1 h
      split at heq
      · next hwhole =>
        cases heq
        rw [← isDocBlock_append_line _ w] at hdoc
        rw [List.cons_append, List.cons_append, List.cons_append, docComment?]
        dsimp only
        rw [← List.cons_append, if_pos hdoc, blockContent?_append hx, Option.bind_some]
        exact if_pos hwhole
      · cases heq
    · cases h
  · cases h

/-- Where no comment begins, only a separator is dropped. -/
theorem dropSeparator?_of_startsComment {c : Char} {rest : List Char}
    (h : startsComment (c :: rest) = false) :
    dropSeparator? (c :: rest) = if isSeparator c then some rest else none := by
  unfold dropSeparator?
  split
  · next heq => rw [heq] at h; cases h
  · next heq => rw [heq] at h; cases h
  · next heq => cases heq; rfl
  · next heq => cases heq

/-- What is dropped as a separator is dropped with further lines behind it. -/
theorem dropSeparator?_append_line (h : dropSeparator? u = some r) :
    dropSeparator? (u ++ '\n' :: w) = some (r ++ '\n' :: w) := by
  have hstop : ∀ c ∈ ('\n' :: w).head?, decide (c ≠ '\n') = false := by
    intro c hc
    obtain rfl := Option.some.inj hc
    rfl
  cases hcomment : startsComment u with
  | false =>
    rcases u with _ | ⟨c, rest⟩
    · cases h
    · rw [dropSeparator?_of_startsComment hcomment] at h
      rw [← startsComment_append_line _ w, List.cons_append] at hcomment
      rw [List.cons_append, dropSeparator?_of_startsComment hcomment]
      split at h
      · next hsep =>
        cases h
        rw [if_pos hsep]
      · cases h
  | true =>
    -- A comment ends in front of the end of its line, or behind its closing mark.
    unfold startsComment at hcomment
    split at hcomment
    · next rest =>
      change (if isDocLine rest then none else some (rest.dropWhile (· ≠ '\n'))) = some r at h
      change (if isDocLine (rest ++ '\n' :: w) then none
        else some ((rest ++ '\n' :: w).dropWhile (· ≠ '\n'))) = some (r ++ '\n' :: w)
      rw [isDocLine_append_line, dropWhile_append_stops _ rest hstop]
      split at h
      · cases h
      · next hdoc =>
        cases h
        rw [if_neg hdoc]
    · next rest =>
      change (if isDocBlock rest then none else (blockContent? 0 rest).map (·.2)) = some r at h
      change (if isDocBlock (rest ++ '\n' :: w) then none
        else (blockContent? 0 (rest ++ '\n' :: w)).map (·.2)) = some (r ++ '\n' :: w)
      rw [isDocBlock_append_line]
      split at h
      · cases h
      · next hdoc =>
        obtain ⟨x, hx, rfl⟩ := Option.map_eq_some_iff.1 h
        rw [if_neg hdoc, blockContent?_append hx, Option.map_some]
    · cases hcomment

/-! ### Lexemes and lines -/

/-- The **first lexeme** of a source does not depend on further lines. -/
theorem next?_append_line {ts : List Token} (hdrop : dropSeparator? u = none)
    (h : next? u = some (ts, r)) :
    dropSeparator? (u ++ '\n' :: w) = none ∧
      next? (u ++ '\n' :: w) = some (ts, r ++ '\n' :: w) := by
  unfold next? at h ⊢
  cases hdoc : docComment? u with
  | some x =>
    rw [hdoc] at h
    cases h
    have hdoc' := docComment?_append_line (w := w) hdoc
    rw [hdoc']
    exact ⟨dropSeparator?_of_docComment? hdoc', rfl⟩
  | none =>
    rw [hdoc] at h
    obtain ⟨⟨t, z⟩, htoken, heq⟩ := Option.map_eq_some_iff.1 h
    cases heq
    have hcomment := startsComment_of_token? htoken
    obtain ⟨c, rest, rfl⟩ := List.exists_cons_of_ne_nil (ne_nil_of_token? htoken)
    rw [dropSeparator?_of_startsComment hcomment] at hdrop
    rw [← startsComment_append_line _ w] at hcomment
    rw [docComment?_of_startsComment hcomment, token?_append_line htoken]
    refine ⟨(dropSeparator?_of_startsComment hcomment).trans ?_, rfl⟩
    split at hdrop
    · cases hdrop
    · next hsep => exact if_neg hsep

/-- Neither do the tokens of a source, and the further lines **are cut as they are**. -/
theorem Lexes.append_line_iff {ts all : List Token} (h : Lexes u ts) :
    Lexes (u ++ '\n' :: w) all ↔ ∃ more, all = ts ++ more ∧ Lexes ('\n' :: w) more := by
  induction h generalizing all with
  | nil => exact ⟨fun h => ⟨all, rfl, h⟩, fun ⟨_, heq, h⟩ => heq ▸ h⟩
  | drop hdrop _ ih =>
    rw [← ih]
    exact ⟨Lexes.drop_inv (dropSeparator?_append_line hdrop),
      Lexes.drop (dropSeparator?_append_line hdrop)⟩
  | @next cs rest first ts hdrop hnext _ _ ih =>
    obtain ⟨hdrop', hnext'⟩ := next?_append_line (w := w) hdrop hnext
    constructor
    · intro h
      obtain ⟨first', rest', tail, hfirst, -, rfl, htail⟩ := h.next_inv (by simp) hdrop'
      cases hnext'.symm.trans hfirst
      obtain ⟨more, rfl, hmore⟩ := ih.1 htail
      exact ⟨more, (List.append_assoc _ _ _).symm, hmore⟩
    · rintro ⟨more, rfl, hmore⟩
      rw [List.append_assoc]
      exact .next hdrop' hnext' (next?_length hnext') (ih.2 ⟨more, rfl, hmore⟩)

/-- The **tokens of the lines** are those of the first lines and those of the rest. -/
theorem tokens?_append_line {ts : List Token} (h : tokens? u = some ts) :
    tokens? (u ++ '\n' :: w) = (tokens? ('\n' :: w)).map (ts ++ ·) := by
  ext all
  rw [tokens?_eq_some_iff, (tokens?_eq_some_iff.1 h).append_line_iff, Option.map_eq_some_iff]
  refine exists_congr fun more => ?_
  rw [tokens?_eq_some_iff, and_comm, eq_comm]

end Scaffold.Source
