import Mathlib.Data.List.Basic
import Scaffold.Route.Template

/-!
# What a path template matches

A template stands for the paths that arise from it when a text is put in place of each
placeholder. `Instance` is that relation, stated on the text of the template without any
notion of segments, and the matching of a path segment by segment is shown to decide it.

## Main results

* `matchSegment_eq_some_iff`: the score of a segment, by the literal text before and behind
  the placeholder.
* `instance_pattern_iff`, `Instance.slash_inv`: the instances of one segment, and of a segment
  with others behind it.
* `isSome_matchTemplate_iff`: a path matches a template of the documented form exactly when
  it is an instance of it, by values that are not empty and contain no slash.

Leading slashes count neither in a template nor in a path, so the relation is stated of what
follows them (`unrooted`).
-/

namespace Scaffold.Route

open Text (Utf8.size split split_of_notMem split_append_cons)

/-! ### Patterns of one segment -/

/-- The literal text in front of the placeholder of a pattern. -/
def lead (pattern : List Char) : List Char :=
  pattern.takeWhile (· ≠ '{')

/-- The literal text behind the placeholder of a pattern. -/
def trail (pattern : List Char) : List Char :=
  (pattern.dropWhile (· ≠ '}')).drop 1

/-- The text in front of a placeholder ends at the first opening brace. -/
theorem lead_append_cons {before : List Char} (h : '{' ∉ before) (rest : List Char) :
    lead (before ++ '{' :: rest) = before := by
  have hbefore : ∀ c ∈ before, decide (c ≠ '{') = true := fun c hm =>
    decide_eq_true (ne_of_mem_of_not_mem hm h)
  rw [lead, List.takeWhile_append_of_pos hbefore]
  simp

/-- The text behind a placeholder begins after the first closing brace. -/
theorem trail_append_cons {before : List Char} (h : '}' ∉ before) (rest : List Char) :
    trail (before ++ '}' :: rest) = rest := by
  have hbefore : ∀ c ∈ before, decide (c ≠ '}') = true := fun c hm =>
    decide_eq_true (ne_of_mem_of_not_mem hm h)
  rw [trail, List.dropWhile_append_of_pos hbefore]
  simp

/-- Whether a pattern is read as one with a placeholder. -/
def HasPlaceholder (pattern : List Char) : Prop :=
  '{' ∈ pattern ∧ '}' ∈ pattern

instance (pattern : List Char) : Decidable (HasPlaceholder pattern) :=
  inferInstanceAs (Decidable (_ ∧ _))

/-- **The score of a segment.** A pattern with a placeholder matches a value between its
literal texts, and scores their bytes; any other pattern matches itself. -/
theorem matchSegment_eq_some_iff {pattern segment : List Char} {n : Nat} :
    matchSegment pattern segment = some n ↔
      (HasPlaceholder pattern ∧ ∃ v, v ≠ [] ∧ segment = lead pattern ++ v ++ trail pattern ∧
        n = Utf8.size (lead pattern) + Utf8.size (trail pattern)) ∨
      (¬ HasPlaceholder pattern ∧ segment = pattern ∧ n = Utf8.size pattern) := by
  by_cases hp : '{' ∈ pattern ∧ '}' ∈ pattern
  · rw [matchSegment, if_pos hp]
    simp only [bind, Option.bind_eq_some_iff, HasPlaceholder, hp, and_self, true_and,
      not_true_eq_false, false_and, or_false]
    constructor
    · rintro ⟨rest, hrest, v, hv, hn⟩
      have h₁ : lead pattern ++ rest = segment := List.isPrefixOf?_eq_some_iff_append_eq.1 hrest
      have h₂ : v ++ trail pattern = rest := List.isSuffixOf?_eq_some_iff_append_eq.1 hv
      obtain ⟨hne, hn⟩ := Option.ite_none_left_eq_some.1 hn
      refine ⟨v, mt List.isEmpty_iff.2 hne, ?_, (Option.some.inj hn).symm⟩
      rw [← h₁, ← h₂, List.append_assoc]
    · rintro ⟨v, hne, rfl, rfl⟩
      refine ⟨v ++ trail pattern, ?_, v, ?_, ?_⟩
      · exact List.isPrefixOf?_eq_some_iff_append_eq.2 (List.append_assoc ..).symm
      · exact List.isSuffixOf?_eq_some_iff_append_eq.2 rfl
      · rw [if_neg (mt List.isEmpty_iff.1 hne)]
        rfl
  · rw [matchSegment, if_neg hp]
    simp only [HasPlaceholder, hp, false_and, not_false_eq_true, true_and, false_or,
      Option.ite_none_right_eq_some, Option.some.injEq]
    constructor
    · rintro ⟨rfl, rfl⟩
      exact ⟨rfl, rfl⟩
    · rintro ⟨rfl, rfl⟩
      exact ⟨rfl, rfl⟩

/-- Whether a segment of a template has the **documented form**: it is literal text, or a
placeholder between literal texts. Its braces, in their order, say which. -/
def IsPattern (segment : List Char) : Prop :=
  segment.filter (fun c => c = '{' ∨ c = '}') = [] ∨
    segment.filter (fun c => c = '{' ∨ c = '}') = ['{', '}']

instance (segment : List Char) : Decidable (IsPattern segment) :=
  inferInstanceAs (Decidable (_ ∨ _))

/-- A segment of the documented form is literal text without braces, or a name in braces
between two such texts. -/
theorem IsPattern.cases {s : List Char} (h : IsPattern s) :
    ('{' ∉ s ∧ '}' ∉ s) ∨
      ∃ before name behind, s = before ++ '{' :: (name ++ '}' :: behind) ∧
        '{' ∉ before ∧ '}' ∉ before ∧ '}' ∉ name ∧ '{' ∉ behind ∧ '}' ∉ behind := by
  rcases h with h | h
  · left
    have hs := List.filter_eq_nil_iff.1 h
    exact ⟨fun hm => hs _ hm (by decide), fun hm => hs _ hm (by decide)⟩
  · right
    obtain ⟨before, s', rfl, hbefore, -, hs'⟩ := List.filter_eq_cons_iff.1 h
    obtain ⟨name, behind, rfl, hname, -, hbehind⟩ := List.filter_eq_cons_iff.1 hs'
    have hb := List.filter_eq_nil_iff.1 hbehind
    exact ⟨before, name, behind, rfl, fun hm => hbefore _ hm (by decide),
      fun hm => hbefore _ hm (by decide), fun hm => hname _ hm (by decide),
      fun hm => hb _ hm (by decide), fun hm => hb _ hm (by decide)⟩

/-- What a name in braces between two texts is read as. -/
theorem hasPlaceholder_braces {before name : List Char} (behind : List Char)
    (ho : '{' ∉ before) (hc : '}' ∉ before) (hn : '}' ∉ name) :
    HasPlaceholder (before ++ '{' :: (name ++ '}' :: behind)) ∧
      lead (before ++ '{' :: (name ++ '}' :: behind)) = before ∧
      trail (before ++ '{' :: (name ++ '}' :: behind)) = behind := by
  refine ⟨⟨by simp, by simp⟩, lead_append_cons ho _, ?_⟩
  have hclose : '}' ∉ before ++ '{' :: name := by simp [hc, hn]
  rw [← List.cons_append, ← List.append_assoc, trail_append_cons hclose]

/-! ### Instances of a template -/

/-- **Instances.** `Instance template values path`: the path is the template with the values,
in their order, in place of the placeholders. -/
inductive Instance : List Char → List (List Char) → List Char → Prop
  | done : Instance [] [] []
  | literal {c : Char} {t p : List Char} {vs : List (List Char)} :
      c ≠ '{' → Instance t vs p → Instance (c :: t) vs (c :: p)
  | placeholder {name t v p : List Char} {vs : List (List Char)} :
      '}' ∉ name → Instance t vs p → Instance ('{' :: (name ++ '}' :: t)) (v :: vs) (v ++ p)

/-- The values that a path segment can give to a placeholder. -/
def Proper (values : List (List Char)) : Prop :=
  ∀ v ∈ values, v ≠ [] ∧ '/' ∉ v

/-- A template without placeholders has itself as an instance. -/
theorem Instance.of_notMem {t : List Char} (h : '{' ∉ t) : Instance t [] t := by
  induction t with
  | nil => exact .done
  | cons c t ih =>
    obtain ⟨hc, ht⟩ := not_or.1 (mt List.mem_cons.2 h)
    exact .literal (Ne.symm hc) (ih ht)

/-- Instances of two texts give one of the two in a row. -/
theorem Instance.append {s t p q : List Char} {vs ws : List (List Char)} (h : Instance s vs p)
    (h' : Instance t ws q) : Instance (s ++ t) (vs ++ ws) (p ++ q) := by
  induction h with
  | done => exact h'
  | literal hc _ ih => exact .literal hc ih
  | placeholder hn _ ih =>
    rw [List.append_assoc, List.cons_append, List.append_assoc, List.cons_append,
      List.cons_append]
    exact .placeholder hn ih

/-- Inversion of an instance of a text that begins with literal text. -/
theorem Instance.literal_inv {l t p : List Char} {vs : List (List Char)} (hl : '{' ∉ l)
    (h : Instance (l ++ t) vs p) : ∃ q, p = l ++ q ∧ Instance t vs q := by
  induction l generalizing p with
  | nil => exact ⟨p, rfl, h⟩
  | cons c l ih =>
    obtain ⟨hc, hl⟩ := not_or.1 (mt List.mem_cons.2 hl)
    generalize hs : c :: l ++ t = s at h
    cases h with
    | done => cases hs
    | literal _ h =>
      obtain ⟨rfl, rfl⟩ := List.cons.inj hs
      obtain ⟨q, rfl, hq⟩ := ih hl h
      exact ⟨q, rfl, hq⟩
    | placeholder => exact absurd (List.cons.inj hs).1.symm hc

/-- Inversion of an instance of a text that begins with a placeholder. -/
theorem Instance.placeholder_inv {name t p : List Char} {vs : List (List Char)}
    (hn : '}' ∉ name) (h : Instance ('{' :: (name ++ '}' :: t)) vs p) :
    ∃ v ws q, vs = v :: ws ∧ p = v ++ q ∧ Instance t ws q := by
  generalize hs : '{' :: (name ++ '}' :: t) = s at h
  cases h with
  | done => cases hs
  | literal hc _ => exact absurd (List.cons.inj hs).1.symm hc
  | placeholder hn' h =>
    obtain ⟨rfl, -, rfl⟩ := Text.append_cons_inj hn hn' (List.cons.inj hs).2
    exact ⟨_, _, _, rfl, rfl, h⟩

/-- An instance contains no slash if neither the template nor a value does. -/
theorem Instance.slash_notMem {t p : List Char} {vs : List (List Char)} (h : Instance t vs p)
    (ht : '/' ∉ t) (hvs : ∀ v ∈ vs, '/' ∉ v) : '/' ∉ p := by
  induction h with
  | done => exact ht
  | literal _ _ ih =>
    obtain ⟨hc, ht⟩ := not_or.1 (mt List.mem_cons.2 ht)
    simpa [hc] using ih ht hvs
  | placeholder _ _ ih =>
    simp only [List.mem_cons, List.mem_append, not_or] at ht
    have hrest := ih ht.2.2.2 fun v hv => hvs v (List.mem_cons_of_mem _ hv)
    simpa [hrest] using hvs _ List.mem_cons_self

/-! ### Segments -/

/-- **The instances of one segment.** Literal text has itself as its only instance, and a
placeholder between two texts has a value between them. -/
theorem instance_pattern_iff {s part : List Char} {vs : List (List Char)} (h : IsPattern s) :
    Instance s vs part ↔ (¬ HasPlaceholder s ∧ vs = [] ∧ part = s) ∨
      (HasPlaceholder s ∧ ∃ v, vs = [v] ∧ part = lead s ++ v ++ trail s) := by
  rcases h.cases with ⟨ho, hc⟩ | ⟨before, name, behind, rfl, ho, hc, hn, ho', hc'⟩
  · have hp : ¬ HasPlaceholder s := fun h => ho h.1
    simp only [hp, not_false_eq_true, true_and, false_and, or_false]
    constructor
    · intro hi
      rw [← List.append_nil s] at hi
      obtain ⟨q, rfl, hq⟩ := hi.literal_inv ho
      cases hq
      exact ⟨rfl, List.append_nil s⟩
    · rintro ⟨rfl, rfl⟩
      exact .of_notMem ho
  · obtain ⟨hp, hlead, htrail⟩ := hasPlaceholder_braces behind ho hc hn
    simp only [hp, hlead, htrail, not_true_eq_false, true_and, false_and, false_or]
    constructor
    · intro hi
      obtain ⟨q, rfl, hq⟩ := hi.literal_inv ho
      obtain ⟨v, ws, r, rfl, rfl, hr⟩ := hq.placeholder_inv hn
      rw [← List.append_nil behind] at hr
      obtain ⟨r', rfl, hr'⟩ := hr.literal_inv ho'
      cases hr'
      refine ⟨v, rfl, ?_⟩
      rw [List.append_nil, List.append_assoc]
    · rintro ⟨v, rfl, rfl⟩
      rw [List.append_assoc]
      exact (Instance.of_notMem ho).append (.placeholder hn (.of_notMem ho'))

/-- **A segment matches exactly as an instance.** For a segment of the documented form, the
parts that match it without a slash are its instances by proper values. -/
theorem isSome_matchSegment_iff {s part : List Char} (h : IsPattern s) (hs : '/' ∉ s) :
    (matchSegment s part).isSome ∧ '/' ∉ part ↔ ∃ vs, Proper vs ∧ Instance s vs part := by
  rw [Option.isSome_iff_exists]
  simp only [matchSegment_eq_some_iff]
  constructor
  · rintro ⟨⟨n, ⟨hp, v, hv, rfl, -⟩ | ⟨hp, rfl, -⟩⟩, hpart⟩
    · refine ⟨[v], ?_, (instance_pattern_iff h).2 (.inr ⟨hp, v, rfl, rfl⟩)⟩
      intro w hw
      rw [List.mem_singleton.1 hw]
      exact ⟨hv, fun hm => hpart (by simp [hm])⟩
    · exact ⟨[], List.forall_mem_nil _, (instance_pattern_iff h).2 (.inl ⟨hp, rfl, rfl⟩)⟩
  · rintro ⟨vs, hvs, hi⟩
    have hpart := hi.slash_notMem hs fun v hv => (hvs v hv).2
    rcases (instance_pattern_iff h).1 hi with ⟨hp, -, rfl⟩ | ⟨hp, v, rfl, rfl⟩
    · exact ⟨⟨_, .inr ⟨hp, rfl, rfl⟩⟩, hpart⟩
    · exact ⟨⟨_, .inl ⟨hp, v, (hvs v List.mem_cons_self).1, rfl, rfl⟩⟩, hpart⟩

/-- A path without a slash is one segment, and any other one begins with a segment and a slash.
-/
theorem segments_cases (p : List Char) :
    ('/' ∉ p ∧ segments p = [p]) ∨
      ∃ part rest, '/' ∉ part ∧ p = part ++ '/' :: rest ∧ segments p = part :: segments rest := by
  by_cases h : '/' ∈ p
  · obtain ⟨part, rest, rfl, hpart⟩ := List.eq_append_cons_of_mem h
    exact .inr ⟨part, rest, hpart, rfl, split_append_cons hpart⟩
  · exact .inl ⟨h, split_of_notMem h⟩

/-- An instance of a segment and a text behind it is an instance of either. -/
theorem Instance.split {s t p : List Char} {vs : List (List Char)} (hs : IsPattern s)
    (h : Instance (s ++ t) vs p) :
    ∃ vs₁ vs₂ p₁ p₂, vs = vs₁ ++ vs₂ ∧ p = p₁ ++ p₂ ∧ Instance s vs₁ p₁ ∧ Instance t vs₂ p₂ := by
  rcases hs.cases with ⟨ho, hc⟩ | ⟨before, name, behind, rfl, ho, hc, hn, ho', hc'⟩
  · obtain ⟨q, rfl, hq⟩ := h.literal_inv ho
    exact ⟨[], vs, s, q, rfl, rfl, .of_notMem ho, hq⟩
  · rw [List.append_assoc] at h
    obtain ⟨q, rfl, hq⟩ := h.literal_inv ho
    rw [List.cons_append, List.append_assoc, List.cons_append] at hq
    obtain ⟨v, ws, r, rfl, rfl, hr⟩ := hq.placeholder_inv hn
    obtain ⟨r', rfl, hr'⟩ := hr.literal_inv ho'
    refine ⟨[v], ws, before ++ (v ++ behind), r', rfl, by simp only [List.append_assoc], ?_, hr'⟩
    exact (Instance.of_notMem ho).append (.placeholder hn (.of_notMem ho'))

/-- Inversion of an instance of a segment and a text behind a slash, by proper values. The first
slash of the instance is that slash. -/
theorem Instance.slash_inv {s t p : List Char} {vs : List (List Char)} (hs : IsPattern s)
    (hslash : '/' ∉ s) (hvs : Proper vs) (h : Instance (s ++ '/' :: t) vs p) :
    ∃ us ws part rest, vs = us ++ ws ∧ p = part ++ '/' :: rest ∧ '/' ∉ part ∧
      (Proper us ∧ Instance s us part) ∧ Proper ws ∧ Instance t ws rest := by
  obtain ⟨us, ws, part, p', rfl, rfl, hpart, hp'⟩ := Instance.split hs h
  obtain ⟨rest, rfl, hrest⟩ := hp'.literal_inv (l := ['/']) (by decide)
  obtain ⟨hus, hws⟩ := List.forall_mem_append.1 hvs
  exact ⟨us, ws, part, rest, rfl, rfl, hpart.slash_notMem hslash fun v hv => (hus v hv).2,
    ⟨hus, hpart⟩, hws, hrest⟩

/-- Patterns match segments if the first ones match and the others do. -/
theorem isSome_matchSegments_cons {s part : List Char} {patterns parts : List (List Char)} :
    (matchSegments (s :: patterns) (part :: parts)).isSome ↔
      (matchSegment s part).isSome ∧ (matchSegments patterns parts).isSome := by
  rw [matchSegments]
  cases matchSegment s part with
  | none => simp
  | some score => cases matchSegments patterns parts <;> simp

/-- Segment by segment, a path matches exactly as an instance of the joined patterns. -/
theorem isSome_matchSegments_iff {s : List Char} {patterns : List (List Char)} {p : List Char}
    (h : ∀ t ∈ s :: patterns, IsPattern t ∧ '/' ∉ t) :
    (matchSegments (s :: patterns) (segments p)).isSome ↔
      ∃ vs, Proper vs ∧ Instance (List.intercalate ['/'] (s :: patterns)) vs p := by
  induction patterns generalizing s p with
  | nil =>
      obtain ⟨hs, hslash⟩ := h s List.mem_cons_self
      rw [List.intercalate_singleton, ← isSome_matchSegment_iff hs hslash]
      rcases segments_cases p with ⟨hp, hsegs⟩ | ⟨part, rest, hpart, rfl, hsegs⟩
      · rw [hsegs, isSome_matchSegments_cons]
        simp [matchSegments, hp]
      · rw [hsegs, isSome_matchSegments_cons]
        obtain ⟨part', more, hmore⟩ := List.exists_cons_of_ne_nil (Text.split_ne_nil '/' rest)
        simp [segments, hmore, matchSegments]
  | cons s' patterns ih =>
      obtain ⟨⟨hs, hslash⟩, hrest⟩ := List.forall_mem_cons.1 h
      rw [List.intercalate_cons_cons, List.append_assoc]
      rcases segments_cases p with ⟨hp, hsegs⟩ | ⟨part, rest, hpart, rfl, hsegs⟩
      · rw [hsegs, isSome_matchSegments_cons]
        -- A path without a slash is no instance of a text with one.
        refine iff_of_false (by simp [matchSegments]) ?_
        rintro ⟨vs, hvs, hi⟩
        obtain ⟨-, -, part, rest, -, rfl, -⟩ := hi.slash_inv hs hslash hvs
        simp at hp
      · rw [hsegs, isSome_matchSegments_cons, ih hrest]
        constructor
        · rintro ⟨hm, ws, hws, hi⟩
          obtain ⟨vs, hvs, hi'⟩ := (isSome_matchSegment_iff hs hslash).1 ⟨hm, hpart⟩
          refine ⟨vs ++ ws, List.forall_mem_append.2 ⟨hvs, hws⟩, ?_⟩
          exact hi'.append (Instance.literal (c := '/') (by decide) hi)
        · rintro ⟨vs, hvs, hi⟩
          obtain ⟨us, ws, part', rest', rfl, hp, hpart', hus, hws⟩ := hi.slash_inv hs hslash hvs
          -- Both halves are cut at the first slash.
          obtain ⟨rfl, rfl⟩ := Text.append_cons_inj hpart hpart' hp
          exact ⟨((isSome_matchSegment_iff hs hslash).2 ⟨us, hus⟩).1, ws, hws⟩

/-- The segments of a template. -/
def patterns (template : String) : List (List Char) :=
  segments (unrooted template.toList)

/-- A template has the **documented form** if each of its segments has it. -/
def IsTemplate (template : String) : Prop :=
  ∀ s ∈ patterns template, IsPattern s

instance (template : String) : Decidable (IsTemplate template) :=
  inferInstanceAs (Decidable (∀ _ ∈ _, _))

/-- A template of the documented form is its patterns, joined by slashes. -/
theorem IsTemplate.exists_patterns {template : String} (h : IsTemplate template) :
    ∃ s rest, patterns template = s :: rest ∧ (∀ t ∈ s :: rest, IsPattern t ∧ '/' ∉ t) ∧
      unrooted template.toList = List.intercalate ['/'] (s :: rest) := by
  obtain ⟨s, rest, hs⟩ :=
    List.exists_cons_of_ne_nil (Text.split_ne_nil '/' (unrooted template.toList))
  refine ⟨s, rest, hs, fun t ht => ⟨h t ?_, Text.notMem_of_mem_split (hs ▸ ht)⟩, ?_⟩
  · rwa [patterns, segments, hs]
  · rw [← hs, Text.intercalate_split]

/-- **A path matches exactly as an instance.** For a template all of whose segments have the
documented form, a path matches it exactly when it arises from it by proper values. -/
theorem isSome_matchTemplate_iff {template path : String} (h : IsTemplate template) :
    (matchTemplate template path).isSome ↔
      ∃ vs, Proper vs ∧ Instance (unrooted template.toList) vs (unrooted path.toList) := by
  obtain ⟨s, rest, hpatterns, hform, hjoin⟩ := h.exists_patterns
  rw [hjoin, ← isSome_matchSegments_iff hform, ← hpatterns]
  rfl

end Scaffold.Route
