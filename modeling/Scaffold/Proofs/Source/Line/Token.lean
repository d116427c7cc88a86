import Scaffold.Proofs.Source.Line.Literal

/-!
# Tokens of a line

A token that is complete in front of the end of a line is the same token with further lines behind
it. Where one reader finds nothing and the next one is asked, what it has not found does not come
about by the end of a line either: it begins no comment, no mark and no quoted literal, and is no
letter of a name.

## Main results

* `token?_append_line` - a token does not depend on further lines.
* `startsComment_of_token?` - no token begins where a comment does.
-/

namespace Scaffold.Source

open Text (startsIdentifier continuesIdentifier)

variable {u r w : List Char}

/-! ### Names and marks -/

/-- A word ends at the end of its line. -/
theorem word?_append_line {x : List Char} (h : word? u = some (x, r)) :
    word? (u ++ '\n' :: w) = some (x, r ++ '\n' :: w) := by
  have hstop : ∀ d ∈ ('\n' :: w).head?, continuesIdentifier d = false :=
    (stops_line w).head rfl rfl rfl
  rcases u with _ | ⟨c, rest⟩
  · cases h
  · rw [word?] at h
    rw [List.cons_append, word?, takeWhile_append_stops _ rest hstop,
      dropWhile_append_stops _ rest hstop]
    split at h
    · next hc =>
      cases h
      rw [if_pos hc]
    · cases h

/-- So does a name, raw or plain. -/
theorem name?_append_line {n : Name} (h : name? u = some (n, r)) :
    name? (u ++ '\n' :: w) = some (n, r ++ '\n' :: w) := by
  unfold name? at h
  split at h
  · next rest =>
    obtain ⟨⟨x, z⟩, hword, heq⟩ := Option.bind_eq_some_iff.1 h
    dsimp only at heq
    split at heq
    · cases heq
    · next hmarkable =>
      cases heq
      rw [List.cons_append, List.cons_append, name?, word?_append_line hword, Option.bind_some]
      dsimp only
      rw [if_neg hmarkable]
  · next hraw =>
    obtain ⟨⟨x, z⟩, hword, heq⟩ := Option.map_eq_some_iff.1 h
    cases heq
    have hplain : name? (u ++ '\n' :: w) =
        (word? (u ++ '\n' :: w)).map fun x => (⟨false, x.1⟩, x.2) := by
      unfold name?
      split
      · next rest hrest =>
        rcases u with _ | ⟨c, _ | ⟨d, more⟩⟩
        · cases hrest
        · cases hrest
        · cases hrest
          exact (hraw more rfl).elim
      · rfl
    rw [hplain, word?_append_line hword, Option.map_some]

/-- A comment begins with two marks. -/
theorem startsComment_eq (cs : List Char) :
    startsComment cs = (['/', '/'].isPrefixOf cs || ['/', '*'].isPrefixOf cs) := by
  unfold startsComment
  split
  · simp [List.isPrefixOf]
  · simp [List.isPrefixOf]
  · next hline hblock =>
    rcases cs with _ | ⟨c, _ | ⟨d, more⟩⟩
    · rfl
    · simp [List.isPrefixOf]
    · have hslashes : '/' = c → ¬ '/' = d := by
        rintro rfl rfl
        exact hline more rfl
      have hstar : '/' = c → ¬ '*' = d := by
        rintro rfl rfl
        exact hblock more rfl
      simpa [List.isPrefixOf] using ⟨hslashes, hstar⟩

/-- The end of a line begins no comment. -/
theorem startsComment_append_line (u w : List Char) :
    startsComment (u ++ '\n' :: w) = startsComment u := by
  rw [startsComment_eq, startsComment_eq, isPrefixOf_append_line (by decide),
    isPrefixOf_append_line (by decide)]

/-- Nor does it begin a mark. -/
theorem startsMark_append_line (u w : List Char) :
    startsMark (u ++ '\n' :: w) = startsMark u := by
  have hmark : ∀ c ∈ ('\n' :: w).head?, marks.contains c = false := by
    intro c hc
    obtain rfl := Option.some.inj hc
    decide
  rw [startsMark, startsMark, startsComment_append_line, head?_any_append_stops u hmark]

/-- The end of a line brings about none of these beginnings. -/
theorem any_quotePrefixes_append_line (u w : List Char) :
    quotePrefixes.any (·.toList.isPrefixOf (u ++ '\n' :: w)) =
      quotePrefixes.any (·.toList.isPrefixOf u) := by
  have hline : ∀ p ∈ quotePrefixes.map String.toList, '\n' ∉ p := by
    rw [map_quotePrefixes]
    decide
  rw [any_quotePrefixes, any_quotePrefixes, Bool.eq_iff_iff, List.any_eq_true, List.any_eq_true]
  refine exists_congr fun p => and_congr_right fun hp => ?_
  rw [isPrefixOf_append_line (hline p hp)]

/-- A name begins with a character that may start one. -/
theorem startsIdentifier_of_name? {c : Char} {x : Name × List Char} (h : name? (c :: u) = some x) :
    startsIdentifier c = true := by
  unfold name? at h
  split at h
  · next heq =>
    obtain ⟨rfl, -⟩ := List.cons.inj heq
    decide
  · obtain ⟨y, hword, -⟩ := Option.map_eq_some_iff.1 h
    rw [word?] at hword
    split at hword
    · next hc => exact hc
    · cases hword

/-- A lifetime is no quoted character with further lines behind it, if it is none by itself. -/
theorem quoted?_lifetime_append_line {c : Char} {rest : List Char} (hc : c ≠ '\\')
    (h : Literal.quoted? ('\'' :: c :: rest) = none) :
    Literal.quoted? ('\'' :: c :: rest ++ '\n' :: w) = none := by
  rw [Literal.quoted?_apostrophe hc, Option.map_eq_none_iff] at h
  rw [List.cons_append, List.cons_append, Literal.quoted?_apostrophe hc,
    Literal.afterApostrophe?_append_line, h, Option.map_none, Option.map_none]

/-- What is no literal is neither a quoted one nor a number. -/
theorem read?_eq_none_inv (h : Literal.read? u = none) :
    Literal.quoted? u = none ∧ Literal.number? u = none := by
  have hkind : Literal.kind? u = none := Option.map_eq_none_iff.1 h
  unfold Literal.kind? at hkind
  split at hkind
  · cases hkind
  · next hquoted => exact ⟨hquoted, hkind⟩

/-- What is no literal is none with further lines behind it, if it is no quoted one with them. -/
theorem read?_append_line_eq_none (h : Literal.read? u = none)
    (hquoted : Literal.quoted? (u ++ '\n' :: w) = none) :
    Literal.read? (u ++ '\n' :: w) = none := by
  rw [Literal.read?_eq hquoted, Literal.number?_append (stops_line w), (read?_eq_none_inv h).2,
    Option.map_none, Option.map_none]

/-- A lifetime ends at the end of its line, and does not begin as an escape does. -/
theorem lifetime?_append_line {t : Token} (h : lifetime? u = some (t, r)) :
    lifetime? (u ++ '\n' :: w) = some (t, r ++ '\n' :: w) ∧
      ∃ c rest, u = c :: rest ∧ c ≠ '\\' := by
  obtain ⟨⟨n, z⟩, hname, heq⟩ := Option.bind_eq_some_iff.1 h
  dsimp only at heq
  split at heq
  · cases heq
  next hend =>
  cases heq
  constructor
  · rw [lifetime?, name?_append_line hname, Option.bind_some]
    dsimp only
    rw [if_neg]
    rcases r with _ | ⟨e, r⟩
    · simp
    · exact hend
  · rcases u with _ | ⟨c, rest⟩
    · cases hname
    · refine ⟨c, rest, rfl, ?_⟩
      rintro rfl
      exact absurd (startsIdentifier_of_name? hname) (by decide)

/-- What is neither a bracket nor a literal is cut off the same with further lines behind it, and
is no literal with them either. -/
theorem bare?_append_line {t : Token} (hread : Literal.read? u = none) (h : bare? u = some (t, r)) :
    Literal.read? (u ++ '\n' :: w) = none ∧
      bare? (u ++ '\n' :: w) = some (t, r ++ '\n' :: w) := by
  rcases u with _ | ⟨c, rest⟩
  · cases h
  rw [bare?] at h
  rw [List.cons_append, bare?, ← List.cons_append]
  split at h
  · next happ =>
    subst happ
    obtain ⟨hlifetime, d, more, rfl, hd⟩ := lifetime?_append_line (w := w) h
    have hquoted := quoted?_lifetime_append_line (w := w) hd (read?_eq_none_inv hread).1
    rw [if_pos rfl]
    exact ⟨read?_append_line_eq_none hread hquoted, hlifetime⟩
  next happ =>
  rw [if_neg happ, startsMark_append_line, startsMark_append_line]
  split at h
  · next hmark =>
    cases h
    have hc : marks.contains c = true := by
      rw [startsMark, Bool.and_eq_true] at hmark
      exact hmark.2
    rw [if_pos hmark]
    exact ⟨read?_append_line_eq_none hread (quoted?_mark_eq_none hc happ), rfl⟩
  next hmark =>
  rw [if_neg hmark, any_quotePrefixes_append_line]
  split at h
  · cases h
  next hprefix =>
  obtain ⟨⟨n, z⟩, hname, heq⟩ := Option.map_eq_some_iff.1 h
  cases heq
  have hquote : c ≠ '"' := by
    rintro rfl
    exact absurd (startsIdentifier_of_name? hname) (by decide)
  have hprefix' := any_quotePrefixes_append_line (c :: rest) w
  rw [Bool.eq_false_iff.2 hprefix] at hprefix'
  rw [if_neg hprefix, name?_append_line hname, Option.map_some]
  exact ⟨read?_append_line_eq_none hread (quoted?_eq_none hquote happ hprefix'), rfl⟩

/-- No token begins where a comment does. -/
theorem startsComment_of_token? {x : Token × List Char} (h : token? u = some x) :
    startsComment u = false := by
  have hnone {c : Char} {rest : List Char} (hmark : startsMark ('/' :: c :: rest) = false) :
      token? ('/' :: c :: rest) = none := by
    have hread : Literal.read? ('/' :: c :: rest) = none := rfl
    have hprefix : quotePrefixes.any (·.toList.isPrefixOf ('/' :: c :: rest)) = false := rfl
    have hname : name? ('/' :: c :: rest) = none := by
      have hword : word? ('/' :: c :: rest) = none := by
        rw [word?, if_neg (by decide)]
      change (word? ('/' :: c :: rest)).map (fun x => (⟨false, x.1⟩, x.2)) = none
      rw [hword, Option.map_none]
    rw [token?, List.head?_cons, Option.bind_some, show bracket? '/' = none from rfl, hread, bare?,
      if_neg (by decide), hmark, hprefix, hname]
    rfl
  unfold startsComment
  split
  · rw [hnone rfl] at h
    cases h
  · rw [hnone rfl] at h
    cases h
  · rfl

/-- A token is cut off the same with further lines behind it. -/
theorem token?_append_line {t : Token} (h : token? u = some (t, r)) :
    token? (u ++ '\n' :: w) = some (t, r ++ '\n' :: w) := by
  obtain ⟨c, rest, rfl⟩ := List.exists_cons_of_ne_nil (ne_nil_of_token? h)
  unfold token? at h ⊢
  rw [List.cons_append, List.head?_cons, Option.bind_some, ← List.cons_append] at *
  cases hbracket : bracket? c with
  | some token =>
    rw [hbracket] at h
    cases h
    rfl
  | none =>
    rw [hbracket] at h
    dsimp only at h ⊢
    cases hread : Literal.read? (c :: rest) with
    | some x =>
      rw [hread] at h
      cases h
      rw [Literal.read?_append_line hread]
    | none =>
      rw [hread] at h
      obtain ⟨hread', hbare⟩ := bare?_append_line hread h
      rw [hread']
      exact hbare

end Scaffold.Source
