import Mathlib.Data.List.Forall2
import Mathlib.Data.List.Infix
import Scaffold.Proofs.Route.Choice
import Scaffold.Proofs.Route.Score

/-!
# The more specific template wins

A template is more specific than another if it matches fewer paths. That is a relation between
two sets of paths, while the choice compares numbers of bytes. The two are tied by a relation
between patterns, `Refines`, which speaks of their literal texts: one template matches only paths
that the other matches exactly if its patterns refine those of the other one by one. A pattern
that refines another has all of its literal text, and scores the same only if the other refines
it too.

## Main results

* `refines_iff`: refinement of patterns, by the segments that they match.
* `forall₂_refines_iff`: refinement of templates, by the paths that they match.
* `Refines.size_cases`, `literalBytes_lt`: what refinement means for the score.
* `specific_wins`: of two templates the more specific one scores higher on every path that both
  match, and the other is never chosen on such a path.

Nothing is asked of the form of the templates.
-/

namespace Scaffold.Route

open Text (Utf8.size Utf8.size_append Utf8.size_pos)

/-! ### Refinement of patterns -/

/-- **Refinement.** `Refines p q`: the segments that `p` matches are among those of `q`, by their
literal texts. -/
inductive Refines : List Char → List Char → Prop
  /-- Both are the same literal text. -/
  | literal {p : List Char} : ¬ HasPlaceholder p → Refines p p
  /-- The first is literal text that the second matches. -/
  | value {q v : List Char} : HasPlaceholder q → v ≠ [] →
      ¬ HasPlaceholder (lead q ++ v ++ trail q) → Refines (lead q ++ v ++ trail q) q
  /-- Both have a placeholder, and the first has more literal text around it. -/
  | placeholder {p q : List Char} : HasPlaceholder p → HasPlaceholder q → lead q <+: lead p →
      trail q <:+ trail p → Refines p q

/-- A segment matches literal text exactly if it is that text. -/
theorem isSome_matchSegment_literal {p part : List Char} (hp : ¬ HasPlaceholder p) :
    (matchSegment p part).isSome ↔ part = p := by
  simp only [Option.isSome_iff_exists, matchSegment_eq_some_iff, hp, false_and,
    not_false_eq_true, true_and, false_or, exists_and_left, exists_eq, and_true]

/-- A segment matches a placeholder exactly if it has a value between the literal texts. -/
theorem isSome_matchSegment_placeholder {p part : List Char} (hp : HasPlaceholder p) :
    (matchSegment p part).isSome ↔ ∃ v, v ≠ [] ∧ part = lead p ++ v ++ trail p := by
  simp only [Option.isSome_iff_exists, matchSegment_eq_some_iff, hp, true_and,
    not_true_eq_false, false_and, or_false]
  constructor
  · rintro ⟨n, v, hv, hpart, -⟩
    exact ⟨v, hv, hpart⟩
  · rintro ⟨v, hv, hpart⟩
    exact ⟨_, v, hv, hpart, rfl⟩

/-- What a pattern matches is matched by every pattern that it refines. -/
theorem Refines.isSome {p q part : List Char} (h : Refines p q)
    (hpart : (matchSegment p part).isSome) : (matchSegment q part).isSome := by
  cases h with
  | literal hp => exact hpart
  | @value _ v hq hv hp =>
      rw [isSome_matchSegment_literal hp] at hpart
      exact (isSome_matchSegment_placeholder hq).2 ⟨v, hv, hpart⟩
  | placeholder hp hq hlead htrail =>
      obtain ⟨v, hv, rfl⟩ := (isSome_matchSegment_placeholder hp).1 hpart
      obtain ⟨x, hx⟩ := hlead
      obtain ⟨y, hy⟩ := htrail
      refine (isSome_matchSegment_placeholder hq).2 ⟨x ++ v ++ y, by simp [hv], ?_⟩
      rw [← hx, ← hy]
      simp only [List.append_assoc]

/-- A text that two texts begin with is part of what they have in common. -/
theorem prefix_of_ne {p l r s : List Char} {a b : Char} (hab : a ≠ b) (ha : p <+: l ++ a :: r)
    (hb : p <+: l ++ b :: s) : p <+: l := by
  rcases List.prefix_or_prefix_of_prefix ha (List.prefix_append l _) with h | ⟨x, rfl⟩
  · exact h
  · cases x with
    | nil => simp
    | cons c x =>
        rw [List.prefix_append_right_inj, List.cons_prefix_cons] at ha hb
        exact absurd (ha.1.symm.trans hb.1) hab

/-- A text that two texts end with is part of what they have in common. -/
theorem suffix_of_ne {p l r s : List Char} {a b : Char} (hab : a ≠ b) (ha : p <:+ r ++ a :: l)
    (hb : p <:+ s ++ b :: l) : p <:+ l := by
  rw [← List.reverse_prefix] at ha hb ⊢
  rw [List.reverse_append, List.reverse_cons, List.append_assoc, List.singleton_append] at ha hb
  exact prefix_of_ne hab ha hb

/-- A value without a slash between the literal texts of a pattern without one has none. -/
theorem slash_notMem_value {p v : List Char} (hp : '/' ∉ p) (hv : '/' ∉ v) :
    '/' ∉ lead p ++ v ++ trail p := by
  have hlead : '/' ∉ lead p := fun hm => hp ((List.takeWhile_sublist _).mem hm)
  have htrail : '/' ∉ trail p := fun hm =>
    hp ((List.dropWhile_sublist _).mem ((List.drop_sublist _ _).mem hm))
  simp [hlead, hv, htrail]

/-- Two values of one character each show how far the literal texts of a pattern reach that
matches both: not beyond those of the pattern whose values they are. -/
theorem refines_of_two_values {p q : List Char} {a b : Char} (hab : a ≠ b) (hp : HasPlaceholder p)
    (ha : (matchSegment q (lead p ++ [a] ++ trail p)).isSome)
    (hb : (matchSegment q (lead p ++ [b] ++ trail p)).isSome) : Refines p q := by
  by_cases hq : HasPlaceholder q
  · obtain ⟨v, -, hv⟩ := (isSome_matchSegment_placeholder hq).1 ha
    obtain ⟨w, -, hw⟩ := (isSome_matchSegment_placeholder hq).1 hb
    refine .placeholder hp hq ?_ ?_
    · refine prefix_of_ne (r := trail p) (s := trail p) hab ?_ ?_
      · exact ⟨v ++ trail q, by simpa using hv.symm⟩
      · exact ⟨w ++ trail q, by simpa using hw.symm⟩
    · refine suffix_of_ne (r := lead p) (s := lead p) hab ?_ ?_
      · exact ⟨lead q ++ v, by simpa using hv.symm⟩
      · exact ⟨lead q ++ w, by simpa using hw.symm⟩
  · -- Literal text is not two segments at once.
    rw [isSome_matchSegment_literal hq] at ha hb
    have heq := ha.trans hb.symm
    simp [hab] at heq

/-- **Refinement is inclusion**: a pattern without a slash refines another exactly if every
segment that it matches is matched by the other. -/
theorem refines_iff {p q : List Char} (hslash : '/' ∉ p) :
    Refines p q ↔ ∀ part, '/' ∉ part → (matchSegment p part).isSome →
      (matchSegment q part).isSome := by
  refine ⟨fun h part _ => h.isSome, fun h => ?_⟩
  by_cases hp : HasPlaceholder p
  · have hmatch : ∀ c, c ≠ '/' → (matchSegment q (lead p ++ [c] ++ trail p)).isSome := by
      intro c hc
      exact h _ (slash_notMem_value hslash (by simpa using hc.symm))
        ((isSome_matchSegment_placeholder hp).2 ⟨[c], by simp, rfl⟩)
    exact refines_of_two_values (a := 'x') (b := 'y') (by decide) hp (hmatch _ (by decide))
      (hmatch _ (by decide))
  · have hself := h p hslash ((isSome_matchSegment_literal hp).2 rfl)
    by_cases hq : HasPlaceholder q
    · obtain ⟨v, hv, rfl⟩ := (isSome_matchSegment_placeholder hq).1 hself
      exact .value hq hv hp
    · obtain rfl := (isSome_matchSegment_literal hq).1 hself
      exact .literal hp

/-! ### Refinement of templates -/

/-- Some segment matches a pattern without a slash. -/
theorem exists_part {p : List Char} (hslash : '/' ∉ p) :
    ∃ part, '/' ∉ part ∧ (matchSegment p part).isSome := by
  by_cases hp : HasPlaceholder p
  · exact ⟨lead p ++ ['x'] ++ trail p, slash_notMem_value hslash (by decide),
      (isSome_matchSegment_placeholder hp).2 ⟨['x'], by simp, rfl⟩⟩
  · exact ⟨p, hslash, (isSome_matchSegment_literal hp).2 rfl⟩

/-- Some segments match patterns without slashes. -/
theorem exists_parts {ps : List (List Char)} (hslash : ∀ p ∈ ps, '/' ∉ p) :
    ∃ parts, (∀ part ∈ parts, '/' ∉ part) ∧ (matchSegments ps parts).isSome := by
  induction ps with
  | nil => exact ⟨[], List.forall_mem_nil _, rfl⟩
  | cons p ps ih =>
      obtain ⟨hp, hps⟩ := List.forall_mem_cons.1 hslash
      obtain ⟨part, hpart, hmatch⟩ := exists_part hp
      obtain ⟨parts, hparts, hmatches⟩ := ih hps
      exact ⟨part :: parts, List.forall_mem_cons.2 ⟨hpart, hparts⟩,
        isSome_matchSegments_cons.2 ⟨hmatch, hmatches⟩⟩

/-- What patterns match is matched by patterns that they refine one by one. -/
theorem isSome_matchSegments_of_refines {ps qs parts : List (List Char)}
    (h : List.Forall₂ Refines ps qs) (hparts : (matchSegments ps parts).isSome) :
    (matchSegments qs parts).isSome := by
  induction h generalizing parts with
  | nil => exact hparts
  | cons hpq _ ih =>
      cases parts with
      | nil => cases hparts
      | cons part parts =>
          obtain ⟨hpart, hparts⟩ := isSome_matchSegments_cons.1 hparts
          exact isSome_matchSegments_cons.2 ⟨hpq.isSome hpart, ih hparts⟩

/-- Patterns that match no more than others refine them one by one: some segments match all the
patterns but one, so that it can be compared alone. -/
theorem forall₂_refines_of_subset {ps qs : List (List Char)} (hslash : ∀ p ∈ ps, '/' ∉ p)
    (h : ∀ parts, (∀ part ∈ parts, '/' ∉ part) → (matchSegments ps parts).isSome →
      (matchSegments qs parts).isSome) : List.Forall₂ Refines ps qs := by
  induction ps generalizing qs with
  | nil =>
      have hnil := h [] (List.forall_mem_nil _) rfl
      cases qs with
      | nil => exact .nil
      | cons q qs => cases hnil
  | cons p ps ih =>
      obtain ⟨hp, hps⟩ := List.forall_mem_cons.1 hslash
      obtain ⟨part, hpart, hmatch⟩ := exists_part hp
      obtain ⟨parts, hparts, hmatches⟩ := exists_parts hps
      cases qs with
      | nil =>
          have hnone := h (part :: parts) (List.forall_mem_cons.2 ⟨hpart, hparts⟩)
            (isSome_matchSegments_cons.2 ⟨hmatch, hmatches⟩)
          cases hnone
      | cons q qs =>
          refine .cons ((refines_iff hp).2 fun part' hpart' hmatch' => ?_)
            (ih hps fun parts' hparts' hmatches' => ?_)
          · exact (isSome_matchSegments_cons.1 (h (part' :: parts)
              (List.forall_mem_cons.2 ⟨hpart', hparts⟩)
              (isSome_matchSegments_cons.2 ⟨hmatch', hmatches⟩))).1
          · exact (isSome_matchSegments_cons.1 (h (part :: parts')
              (List.forall_mem_cons.2 ⟨hpart, hparts'⟩)
              (isSome_matchSegments_cons.2 ⟨hmatch, hmatches'⟩))).2

/-- Nothing rooted is left behind leading slashes. -/
theorem head?_unrooted (cs : List Char) : (unrooted cs).head? ≠ some '/' := by
  intro h
  have hhead := List.head?_dropWhile_not (· = '/') cs
  rw [← unrooted, h] at hhead
  simp at hhead

/-- Text that does not begin with a slash is as it is. -/
theorem unrooted_eq_self {cs : List Char} (h : cs.head? ≠ some '/') : unrooted cs = cs := by
  cases cs with
  | nil => rfl
  | cons c cs =>
      have hc : c ≠ '/' := fun heq => h (by rw [heq, List.head?_cons])
      exact List.dropWhile_cons_of_neg (by simpa using hc)

/-- Joined segments begin with a slash exactly if the first is empty and others follow. -/
theorem head?_intercalate_iff {part : List Char} {more : List (List Char)} (h : '/' ∉ part) :
    (List.intercalate ['/'] (part :: more)).head? = some '/' ↔ part = [] ∧ more ≠ [] := by
  have hhead : part.head? ≠ some '/' := fun heq => h (List.mem_of_mem_head? heq)
  cases more with
  | nil => simp [List.intercalate_singleton, hhead]
  | cons next more =>
      rw [List.intercalate_cons_cons, List.append_assoc]
      cases part with
      | nil => simp
      | cons c part =>
          rw [List.head?_cons] at hhead
          simpa using hhead

/-- **Which segments are those of a path**: one at least, none with a slash, and the first is
empty only if it is the only one, since leading slashes do not count. -/
theorem exists_path_iff {parts : List (List Char)} :
    (∃ path : String, segments (unrooted path.toList) = parts) ↔
      ∃ part more, parts = part :: more ∧ (∀ p ∈ part :: more, '/' ∉ p) ∧
        (part = [] → more = []) := by
  constructor
  · rintro ⟨path, rfl⟩
    obtain ⟨part, more, hsegs⟩ :=
      List.exists_cons_of_ne_nil (Text.split_ne_nil '/' (unrooted path.toList))
    have hslash : ∀ p ∈ part :: more, '/' ∉ p := fun p hp =>
      Text.notMem_of_mem_split (hsegs ▸ hp)
    refine ⟨part, more, hsegs, hslash, fun hpart => ?_⟩
    have hjoin := Text.intercalate_split '/' (unrooted path.toList)
    rw [hsegs] at hjoin
    by_contra hmore
    refine head?_unrooted path.toList ?_
    rw [← hjoin]
    exact (head?_intercalate_iff (hslash part List.mem_cons_self)).2 ⟨hpart, hmore⟩
  · rintro ⟨part, more, rfl, hslash, hfirst⟩
    refine ⟨String.ofList (List.intercalate ['/'] (part :: more)), ?_⟩
    have hunrooted := unrooted_eq_self fun hhead =>
      let ⟨hpart, hmore⟩ := (head?_intercalate_iff (hslash part List.mem_cons_self)).1 hhead
      hmore (hfirst hpart)
    rw [String.toList_ofList, hunrooted, segments, Text.split_intercalate hslash]

/-- Only the empty pattern matches the empty segment. -/
theorem eq_nil_of_matchSegment_nil {p : List Char} (h : (matchSegment p []).isSome) : p = [] := by
  by_cases hp : HasPlaceholder p
  · obtain ⟨v, hv, hpart⟩ := (isSome_matchSegment_placeholder hp).1 h
    simp [hv] at hpart
  · exact ((isSome_matchSegment_literal hp).1 h).symm

/-- **Refinement of templates is inclusion**: the patterns of a template refine those of another
one by one exactly if every path that it matches is matched by the other. -/
theorem forall₂_refines_iff {t u : String} :
    List.Forall₂ Refines (patterns t) (patterns u) ↔
      ∀ path, (matchTemplate t path).isSome → (matchTemplate u path).isSome := by
  refine ⟨fun h path => isSome_matchSegments_of_refines h, fun h => ?_⟩
  obtain ⟨s, rest, ht, hslash, hfirst⟩ := exists_path_iff.1 ⟨t, rfl⟩
  rw [patterns, ht]
  refine forall₂_refines_of_subset hslash fun parts hparts hmatch => ?_
  cases parts with
  | nil => cases hmatch
  | cons part more =>
      have hpart : part = [] → more = [] := by
        rintro rfl
        obtain ⟨hs, hrest⟩ := isSome_matchSegments_cons.1 hmatch
        obtain rfl := hfirst (eq_nil_of_matchSegment_nil hs)
        cases more with
        | nil => rfl
        | cons next more => cases hrest
      obtain ⟨path, hpath⟩ := exists_path_iff.2 ⟨part, more, rfl, hparts, hpart⟩
      have hu := h path
      rw [matchTemplate, matchTemplate, ht, hpath] at hu
      exact hu hmatch

/-! ### The score of what is more specific -/

/-- **A pattern that refines another scores no less**, and the same only if the other refines it
too. -/
theorem Refines.size_cases {p q : List Char} (h : Refines p q) :
    (Utf8.size (literalText q) = Utf8.size (literalText p) ∧ Refines q p) ∨
      Utf8.size (literalText q) < Utf8.size (literalText p) := by
  cases h with
  | literal hp => exact .inl ⟨rfl, .literal hp⟩
  | @value _ v hq hv hp =>
      right
      rw [literalText, literalText, if_pos hq, if_neg hp, Utf8.size_append, Utf8.size_append,
        Utf8.size_append]
      have hpos := Utf8.size_pos hv
      omega
  | placeholder hp hq hlead htrail =>
      obtain ⟨x, hx⟩ := hlead
      obtain ⟨y, hy⟩ := htrail
      rw [literalText, literalText, if_pos hp, if_pos hq, ← hx, ← hy, Utf8.size_append,
        Utf8.size_append, Utf8.size_append, Utf8.size_append]
      by_cases hxy : x = [] ∧ y = []
      · obtain ⟨rfl, rfl⟩ := hxy
        rw [List.append_nil] at hx
        rw [List.nil_append] at hy
        exact .inl ⟨by simp [Utf8.size], .placeholder hq hp (hx ▸ List.prefix_rfl)
          (hy ▸ List.suffix_rfl)⟩
      · right
        have hpos : 0 < Utf8.size x + Utf8.size y := by
          rcases not_and_or.1 hxy with hx | hy
          · exact Nat.add_pos_left (Utf8.size_pos hx) _
          · exact Nat.add_pos_right _ (Utf8.size_pos hy)
        omega

/-- Patterns that refine others one by one score no less together, and the same only if the
others refine them too. -/
theorem totalSize_cases {ps qs : List (List Char)} (h : List.Forall₂ Refines ps qs) :
    (totalSize (qs.map literalText) = totalSize (ps.map literalText) ∧
        List.Forall₂ Refines qs ps) ∨
      totalSize (qs.map literalText) < totalSize (ps.map literalText) := by
  induction h with
  | nil => exact .inl ⟨rfl, .nil⟩
  | cons hpq _ ih =>
      rw [List.map_cons, List.map_cons, totalSize_cons, totalSize_cons]
      rcases hpq.size_cases, ih with ⟨⟨heq, hqp⟩ | hlt, ⟨heqs, hqps⟩ | hlts⟩
      · exact .inl ⟨by omega, .cons hqp hqps⟩
      · exact .inr (by omega)
      · exact .inr (by omega)
      · exact .inr (by omega)

/-- A template is **more specific** than another: it matches only paths that the other matches,
and not all of them. -/
def MoreSpecific (t u : String) : Prop :=
  (∀ path, (matchTemplate t path).isSome → (matchTemplate u path).isSome) ∧
    ∃ path, (matchTemplate u path).isSome ∧ matchTemplate t path = none

/-- **The more specific template has more literal text.** -/
theorem literalBytes_lt {t u : String} (h : MoreSpecific t u) :
    literalBytes u < literalBytes t := by
  obtain ⟨hsubset, path, hu, ht⟩ := h
  rcases totalSize_cases (forall₂_refines_iff.2 hsubset) with ⟨-, hback⟩ | hlt
  · have hmatch := forall₂_refines_iff.1 hback path hu
    rw [ht] at hmatch
    cases hmatch
  · exact hlt

/-- **The more specific template wins.** Of two templates the more specific one scores higher on
every path that both match; and among candidates with an entry for it, whatever their order, a
path that it matches is given to some entry, and to none for the other. -/
theorem specific_wins {t u : String} (h : MoreSpecific t u) :
    (∀ path n m, matchTemplate t path = some n → matchTemplate u path = some m → m < n) ∧
    ∀ {α : Type} (template : α → String) (candidates : List α) (path : String),
      (∃ c ∈ candidates, template c = t) → (matchTemplate t path).isSome →
        ∃ d, bestMatch template candidates path = some d ∧ template d ≠ u := by
  have hscore : ∀ path n m, matchTemplate t path = some n → matchTemplate u path = some m →
      m < n := by
    intro path n m ht hu
    rw [(matchTemplate_eq_some_iff.1 ht).2, (matchTemplate_eq_some_iff.1 hu).2]
    exact literalBytes_lt h
  refine ⟨hscore, fun {α} template candidates path ⟨c, hmem, hc⟩ ht => ?_⟩
  obtain ⟨n, hn⟩ := Option.isSome_iff_exists.1 ht
  cases hbest : bestMatch template candidates path with
  | none =>
      have hnone := bestMatch_eq_none_iff.1 hbest c hmem
      rw [hc, hn] at hnone
      cases hnone
  | some d =>
      refine ⟨d, rfl, fun hd => ?_⟩
      obtain ⟨m, hlast⟩ := lastBest_of_bestMatch hbest
      have hle : n ≤ m := hlast.le hmem (hc.symm ▸ hn)
      obtain ⟨-, -, -, hm, -⟩ := hlast
      have hlt := hscore path n m hn (hd ▸ hm)
      omega

/-- A literal text behind a placeholder makes a template more specific, and the entry for it is
found although the other stands first and last. -/
theorem specific_wins_undelete :
    MoreSpecific "/datasets/{id}:undelete" "/datasets/{id}" ∧
      (∃ c ∈ ["/datasets/{id}", "/datasets/{id}:undelete", "/datasets/{id}"],
        c = "/datasets/{id}:undelete") ∧
      (matchTemplate "/datasets/{id}:undelete" "/datasets/d:undelete").isSome ∧
      ∃ d, bestMatch id ["/datasets/{id}", "/datasets/{id}:undelete", "/datasets/{id}"]
        "/datasets/d:undelete" = some d ∧ d ≠ "/datasets/{id}" := by
  have hrefines : List.Forall₂ Refines (patterns "/datasets/{id}:undelete")
      (patterns "/datasets/{id}") :=
    .cons (.literal (by decide)) (.cons (.placeholder (by decide) (by decide) (by decide)
      (by decide)) .nil)
  have h : MoreSpecific "/datasets/{id}:undelete" "/datasets/{id}" :=
    ⟨forall₂_refines_iff.1 hrefines, "/datasets/d", by decide, by decide⟩
  have hmem : ∃ c ∈ ["/datasets/{id}", "/datasets/{id}:undelete", "/datasets/{id}"],
      c = "/datasets/{id}:undelete" := by decide
  have hmatch : (matchTemplate "/datasets/{id}:undelete" "/datasets/d:undelete").isSome := by
    decide
  exact ⟨h, hmem, hmatch, (specific_wins h).2 id _ _ hmem hmatch⟩

end Scaffold.Route
