import Scaffold.Proofs.Except
import Scaffold.Proofs.Route.Score

/-!
# Matching by byte offsets

A pattern is taken apart by the byte offsets of its braces. The two offsets come from searches of
their own, so that either can be the smaller one, and the texts that they give can overlap. An
offset is good for a cut if it is in range and not within a character, and a sum is good if it does
not exceed the largest number of the machine. The matching below stops at the first offset or sum
that is not good. It never stops: each offset is that of a character, and the sums are bounded by
the bytes of the path, from which every literal text that counts has been taken away.

## Main definitions

* `offset?` - the offset of a character in a text.
* `cutAt` - cuts a text at an offset.
* `Checked.matchSegment`, `Checked.matchTemplate` - the matching with its cuts and sums.

## Main results

* `Checked.matchSegment_eq` - no cut and no sum fails in a segment.
* `Checked.matchSegments_eq` - the running sum never fails.
* `le_size_of_matchTemplate` - the score is at most the bytes of the path.
* `matchTemplate_bounded` - all of it for every template and path.
-/

namespace Scaffold.Route

open Text (Utf8.size Utf8.size_append Utf8.size_pos)

/-! ### Offsets -/

/-- Why a checked matching stops. -/
inductive Trap where
  /-- A text is cut out of its range, or within a character. -/
  | badOffset
  /-- A sum exceeds the largest number of the machine. -/
  | overflow
  deriving Repr, DecidableEq

/-- The **byte offset** of the first occurrence of a character. -/
def offset? (mark : Char) (cs : List Char) : Option Nat :=
  match cs with
  | [] => none
  | c :: rest => if c = mark then some 0 else (offset? mark rest).map (c.utf8Size + ·)

/-- **Cuts a text** at a byte offset, which must be in range and on the boundary of a character. -/
def cutAt (n : Nat) (cs : List Char) : Except Trap (List Char × List Char) :=
  if n = 0 then .ok ([], cs)
  else
    match cs with
    | [] => .error .badOffset
    | c :: rest =>
      if c.utf8Size ≤ n then
        (cutAt (n - c.utf8Size) rest).map fun (front, back) => (c :: front, back)
      else
        .error .badOffset

/-- Adds two numbers if the sum does not exceed a limit. -/
def addWithin (limit a b : Nat) : Except Trap Nat :=
  if a + b ≤ limit then .ok (a + b) else .error .overflow

/-- A character that occurs is found behind what stands in front of it. -/
theorem offset?_append {mark : Char} {before : List Char} (h : mark ∉ before) (rest : List Char) :
    offset? mark (before ++ mark :: rest) = some (Utf8.size before) := by
  induction before with
  | nil => exact if_pos rfl
  | cons c before ih =>
    obtain ⟨hc, hbefore⟩ := not_or.1 (mt List.mem_cons.2 h)
    rw [List.cons_append, offset?, if_neg (Ne.symm hc), ih hbefore]
    rfl

/-- A character that does not occur has no offset. -/
theorem offset?_eq_none {mark : Char} {cs : List Char} (h : mark ∉ cs) :
    offset? mark cs = none := by
  induction cs with
  | nil => rfl
  | cons c cs ih =>
    obtain ⟨hc, hcs⟩ := not_or.1 (mt List.mem_cons.2 h)
    rw [offset?, if_neg (Ne.symm hc), ih hcs]
    rfl

/-- A text is **cut between any two parts** of it. -/
theorem cutAt_append (front back : List Char) :
    cutAt (Utf8.size front) (front ++ back) = .ok (front, back) := by
  induction front with
  | nil =>
    rw [cutAt.eq_def]
    rfl
  | cons c front ih =>
    have hpos := Char.utf8Size_pos c
    rw [List.cons_append, Utf8.size, cutAt, if_neg (by omega), if_pos (by omega),
      Nat.add_sub_cancel_left, ih]
    rfl

/-! ### The matching -/

/-- The text in front of a byte offset. -/
def textBefore (n : Nat) (cs : List Char) : Except Trap (List Char) :=
  (cutAt n cs).map (·.1)

/-- The text behind a byte offset. -/
def textBehind (n : Nat) (cs : List Char) : Except Trap (List Char) :=
  (cutAt n cs).map (·.2)

namespace Checked

/-- The score of a segment against a pattern, with its cuts and its sum. The sum is formed as soon
as the segment has both literal texts, whether or not there is a value between them. -/
def matchSegment (limit : Nat) (pattern segment : List Char) : Except Trap (Option Nat) :=
  match offset? '{' pattern, offset? '}' pattern with
  | some opening, some closing => do
    let before ← textBefore opening pattern
    let behind ← textBehind (closing + 1) pattern
    match (before.isPrefixOf? segment).bind (behind.isSuffixOf? ·) with
    | none => return none
    | some value =>
      let score ← addWithin limit (Utf8.size before) (Utf8.size behind)
      return if value.isEmpty then none else some score
  | _, _ => return if pattern = segment then some (Utf8.size pattern) else none

/-- Adds the scores of segments against patterns to a sum, one after the other. -/
def matchSegments (limit sum : Nat) (patterns parts : List (List Char)) :
    Except Trap (Option Nat) :=
  match patterns, parts with
  | [], [] => return some sum
  | pattern :: patterns, part :: parts => do
    match ← matchSegment limit pattern part with
    | none => return none
    | some score => matchSegments limit (← addWithin limit sum score) patterns parts
  | _, _ => return none

/-- The score of a path against a template, with all cuts and sums. -/
def matchTemplate (limit : Nat) (template path : String) : Except Trap (Option Nat) :=
  matchSegments limit 0 (segments (unrooted template.toList)) (segments (unrooted path.toList))

end Checked

/-! ### Cuts at braces -/

/-- The **opening brace is a place to cut**: in front of it stands the first literal text. -/
theorem exists_opening {pattern : List Char} (h : '{' ∈ pattern) :
    ∃ n, offset? '{' pattern = some n ∧ textBefore n pattern = .ok (lead pattern) := by
  obtain ⟨before, rest, rfl, hbefore⟩ := List.eq_append_cons_of_mem h
  refine ⟨_, offset?_append hbefore rest, ?_⟩
  rw [textBefore, cutAt_append, lead_append_cons hbefore]
  rfl

/-- The **end of the closing brace is a place to cut**: behind it stands the second literal
text. -/
theorem exists_closing {pattern : List Char} (h : '}' ∈ pattern) :
    ∃ n, offset? '}' pattern = some n ∧ textBehind (n + 1) pattern = .ok (trail pattern) := by
  obtain ⟨before, rest, rfl, hbefore⟩ := List.eq_append_cons_of_mem h
  refine ⟨_, offset?_append hbefore rest, ?_⟩
  -- A brace is a single byte.
  have hend : Utf8.size before + 1 = Utf8.size (before ++ ['}']) := by
    rw [Utf8.size_append]
    rfl
  have hcut := cutAt_append (before ++ ['}']) rest
  rw [List.append_assoc, List.singleton_append] at hcut
  rw [hend, textBehind, hcut, trail_append_cons hbefore]
  rfl

/-- A sum within the limit is formed. -/
theorem addWithin_eq {limit a b : Nat} (h : a + b ≤ limit) : addWithin limit a b = .ok (a + b) :=
  if_pos h

/-- The score of a pattern with a placeholder, from what is left of the segment between the
literal texts. -/
theorem matchSegment_of_hasPlaceholder {pattern : List Char} (h : HasPlaceholder pattern)
    (segment : List Char) :
    matchSegment pattern segment =
      (((lead pattern).isPrefixOf? segment).bind ((trail pattern).isSuffixOf? ·)).bind fun value =>
        if value.isEmpty then none
        else some (Utf8.size (lead pattern) + Utf8.size (trail pattern)) := by
  have hbraces : '{' ∈ pattern ∧ '}' ∈ pattern := h
  rw [matchSegment, if_pos hbraces, Option.bind_assoc]
  rfl

/-- What is left of a segment stands between the literal texts. -/
theorem eq_append_of_bind {before behind segment value : List Char}
    (h : (before.isPrefixOf? segment).bind (behind.isSuffixOf? ·) = some value) :
    segment = before ++ (value ++ behind) := by
  obtain ⟨rest, hrest, hvalue⟩ := Option.bind_eq_some_iff.1 h
  rw [← List.isPrefixOf?_eq_some_iff_append_eq.1 hrest,
    ← List.isSuffixOf?_eq_some_iff_append_eq.1 hvalue]

/-- **No cut and no sum fails** in a segment whose bytes can be counted. -/
theorem Checked.matchSegment_eq {limit : Nat} {segment : List Char}
    (h : Utf8.size segment ≤ limit) (pattern : List Char) :
    Checked.matchSegment limit pattern segment = .ok (Route.matchSegment pattern segment) := by
  by_cases hp : HasPlaceholder pattern
  · obtain ⟨opening, hopening, hbefore⟩ := exists_opening hp.1
    obtain ⟨closing, hclosing, hbehind⟩ := exists_closing hp.2
    rw [Checked.matchSegment, hopening, hclosing, matchSegment_of_hasPlaceholder hp]
    dsimp only
    rw [hbefore, ok_bind, hbehind, ok_bind]
    cases hvalue : ((lead pattern).isPrefixOf? segment).bind ((trail pattern).isSuffixOf? ·) with
    | none => rfl
    | some value =>
      have hsize := congrArg Utf8.size (eq_append_of_bind hvalue)
      rw [Utf8.size_append, Utf8.size_append] at hsize
      dsimp only
      rw [addWithin_eq (by omega), ok_bind]
      rfl
  · have hbraces : ¬ ('{' ∈ pattern ∧ '}' ∈ pattern) := hp
    have hnone : offset? '{' pattern = none ∨ offset? '}' pattern = none := by
      rcases not_and_or.1 hbraces with hopen | hclose
      · exact .inl (offset?_eq_none hopen)
      · exact .inr (offset?_eq_none hclose)
    rw [Checked.matchSegment, Route.matchSegment, if_neg hbraces]
    rcases hnone with hnone | hnone
    · rw [hnone]
      rfl
    · rw [hnone]
      cases offset? '{' pattern <;> rfl

/-! ### The running sum -/

/-- A segment scores **at most its bytes**, and fewer if a placeholder takes some of them. -/
theorem le_size_of_matchSegment {pattern segment : List Char} {n : Nat}
    (h : matchSegment pattern segment = some n) :
    n ≤ Utf8.size segment ∧ (HasPlaceholder pattern → n < Utf8.size segment) := by
  rcases matchSegment_eq_some_iff.1 h with ⟨-, v, hv, rfl, rfl⟩ | ⟨hp, rfl, rfl⟩
  · have hpos := Utf8.size_pos hv
    rw [Utf8.size_append, Utf8.size_append]
    omega
  · exact ⟨Nat.le_refl _, fun hplaceholder => absurd hplaceholder hp⟩

/-- Segments score **at most their bytes**, and fewer if a placeholder takes some of them. -/
theorem le_totalSize_of_matchSegments {patterns parts : List (List Char)} {n : Nat}
    (h : matchSegments patterns parts = some n) :
    n ≤ totalSize parts ∧ ((∃ p ∈ patterns, HasPlaceholder p) → n < totalSize parts) := by
  induction patterns generalizing parts n with
  | nil =>
    cases parts with
    | nil => exact ⟨Nat.le_of_eq (Option.some.inj h).symm, fun ⟨_, hmem, _⟩ => nomatch hmem⟩
    | cons part parts => cases h
  | cons pattern patterns ih =>
    cases parts with
    | nil => cases h
    | cons part parts =>
      simp only [matchSegments, bind, Option.bind_eq_some_iff] at h
      obtain ⟨score, hscore, rest, hrest, hn⟩ := h
      obtain rfl := Option.some.inj hn
      obtain ⟨hle, hlt⟩ := le_size_of_matchSegment hscore
      obtain ⟨hles, hlts⟩ := ih hrest
      rw [totalSize_cons]
      refine ⟨Nat.add_le_add hle hles, ?_⟩
      rintro ⟨p, hp, hplaceholder⟩
      rcases List.mem_cons.1 hp with rfl | hp
      · exact Nat.add_lt_add_of_lt_of_le (hlt hplaceholder) hles
      · exact Nat.add_lt_add_of_le_of_lt hle (hlts ⟨p, hp, hplaceholder⟩)

/-- The **running sum never fails** if the bytes that are left can be added to it. -/
theorem Checked.matchSegments_eq {limit sum : Nat} {patterns parts : List (List Char)}
    (h : sum + totalSize parts ≤ limit) :
    Checked.matchSegments limit sum patterns parts =
      .ok ((Route.matchSegments patterns parts).map (sum + ·)) := by
  induction patterns generalizing parts sum with
  | nil => cases parts <;> rfl
  | cons pattern patterns ih =>
    cases parts with
    | nil => rfl
    | cons part parts =>
      rw [totalSize_cons] at h
      rw [Checked.matchSegments, Route.matchSegments, Checked.matchSegment_eq (by omega), ok_bind]
      cases hscore : Route.matchSegment pattern part with
      | none => rfl
      | some score =>
        have hle := (le_size_of_matchSegment hscore).1
        dsimp only
        rw [addWithin_eq (by omega), ok_bind, ih (by omega)]
        cases Route.matchSegments patterns parts with
        | none => rfl
        | some rest => exact congrArg (Except.ok ∘ some) (Nat.add_assoc sum score rest)

/-! ### The whole path -/

/-- The segments of a path have **at most its bytes**. -/
theorem totalSize_segments_le (path : String) :
    totalSize (segments (unrooted path.toList)) ≤ Utf8.size path.toList := by
  rw [totalSize, segments, Text.flatten_split]
  exact Text.Utf8.size_le_of_sublist (List.filter_sublist.trans (List.dropWhile_sublist _))

/-- **Matching never stops, and the score is bounded by the path.** For every template and path,
with braces in any number and order, every cut is in range and between two characters, and every
sum, the last one as well as those on the way, stays within a limit that the bytes of the path do
not exceed; the result is that of the matching without checks. A score is at most the number of
bytes of the path, and less if some segment was matched by a placeholder. -/
theorem matchTemplate_bounded (template path : String) :
    (∀ limit pattern segment, Utf8.size segment ≤ limit →
      Checked.matchSegment limit pattern segment = .ok (matchSegment pattern segment)) ∧
    (∀ limit, Utf8.size path.toList ≤ limit →
      Checked.matchTemplate limit template path = .ok (matchTemplate template path)) ∧
    ∀ n, matchTemplate template path = some n →
      n ≤ Utf8.size path.toList ∧
      ((∃ pattern ∈ patterns template, HasPlaceholder pattern) → n < Utf8.size path.toList) := by
  have hsegments := totalSize_segments_le path
  refine ⟨fun limit pattern segment h => Checked.matchSegment_eq h pattern, fun limit h => ?_,
    fun n hn => ?_⟩
  · rw [Checked.matchTemplate, Checked.matchSegments_eq (by omega)]
    simp [matchTemplate]
  · obtain ⟨hle, hlt⟩ := le_totalSize_of_matchSegments hn
    exact ⟨Nat.le_trans hle hsegments, fun h => Nat.lt_of_lt_of_le (hlt h) hsegments⟩

/-- A pattern whose braces come in reverse, so that the texts around the placeholder overlap in
it. -/
theorem matchTemplate_overlapping :
    Checked.matchTemplate 10 "/é\x7dx\x7bü" "/é\x7dxvx\x7bü" = .ok (some 8) ∧
      8 < Utf8.size "/é\x7dxvx\x7bü".toList := by
  have hmatch : matchTemplate "/é\x7dx\x7bü" "/é\x7dxvx\x7bü" = some 8 := by decide
  obtain ⟨-, hchecked, hbound⟩ := matchTemplate_bounded "/é\x7dx\x7bü" "/é\x7dxvx\x7bü"
  refine ⟨(hchecked 10 (by decide)).trans (congrArg _ hmatch), (hbound 8 hmatch).2 (by decide)⟩

end Scaffold.Route
