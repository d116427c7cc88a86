import Scaffold.Proofs.Route.Template
import Scaffold.Proofs.Text.Utf8

/-!
# The score of a match

The score of a path is the number of bytes of literal text in its template, so it depends on the
template alone. For a template of the documented form the bytes of the path's segments are those
of the literal text and those of the values, and the values are determined by the path.

## Main definitions

* `literalText`, `literalBytes`: the literal text of a pattern, and its bytes in a template.
* `Fills`: values that make a path of a template.

## Main results

* `matchTemplate_eq_some_iff`: a match and its score, apart.
* `Fills.unique`: the values of a path.
* `Fills.totalSize_eq`: the bytes of a path's segments.
* `matchTemplate_exact`: a path has a score exactly if values make it of the template, and the
  score is what the values leave of the bytes.
-/

namespace Scaffold.Route

open Text (Utf8.size Utf8.size_append split_of_notMem split_append_cons)

/-! ### Bytes -/

/-- How many bytes texts take together. -/
def totalSize (texts : List (List Char)) : Nat :=
  Utf8.size texts.flatten

/-- The bytes of texts and further texts. -/
theorem totalSize_append (xs ys : List (List Char)) :
    totalSize (xs ++ ys) = totalSize xs + totalSize ys := by
  rw [totalSize, List.flatten_append, Utf8.size_append, totalSize, totalSize]

/-- The bytes of a text and further texts. -/
theorem totalSize_cons (x : List Char) (xs : List (List Char)) :
    totalSize (x :: xs) = Utf8.size x + totalSize xs := by
  rw [totalSize, List.flatten_cons, Utf8.size_append, totalSize]

/-! ### The score by the template -/

/-- The **literal text of a pattern**: what stands around its placeholder, or all of it. -/
def literalText (pattern : List Char) : List Char :=
  if HasPlaceholder pattern then lead pattern ++ trail pattern else pattern

/-- The **literal text of a template**, in bytes. Slashes are not counted. -/
def literalBytes (template : String) : Nat :=
  totalSize ((patterns template).map literalText)

/-- A segment that matches scores the literal text of the pattern. -/
theorem eq_size_of_matchSegment {pattern segment : List Char} {n : Nat}
    (h : matchSegment pattern segment = some n) : n = Utf8.size (literalText pattern) := by
  rcases matchSegment_eq_some_iff.1 h with ⟨hp, v, -, -, rfl⟩ | ⟨hp, -, rfl⟩
  · rw [literalText, if_pos hp, Utf8.size_append]
  · rw [literalText, if_neg hp]

/-- Segments that match score the literal text of the patterns. -/
theorem eq_totalSize_of_matchSegments {patterns parts : List (List Char)} {n : Nat}
    (h : matchSegments patterns parts = some n) : n = totalSize (patterns.map literalText) := by
  induction patterns generalizing parts n with
  | nil =>
      cases parts with
      | nil => exact (Option.some.inj h).symm
      | cons part parts => cases h
  | cons pattern patterns ih =>
      cases parts with
      | nil => cases h
      | cons part parts =>
          simp only [matchSegments, bind, Option.bind_eq_some_iff] at h
          obtain ⟨score, hscore, rest, hrest, hn⟩ := h
          rw [List.map_cons, totalSize_cons, ← eq_size_of_matchSegment hscore, ← ih hrest]
          exact (Option.some.inj hn).symm

/-- **A path that matches scores the literal text of the template.** -/
theorem matchTemplate_eq_some_iff {template path : String} {n : Nat} :
    matchTemplate template path = some n ↔
      (matchTemplate template path).isSome ∧ n = literalBytes template := by
  constructor
  · intro h
    exact ⟨Option.isSome_of_eq_some h, eq_totalSize_of_matchSegments h⟩
  · rintro ⟨hmatch, rfl⟩
    obtain ⟨n, hn⟩ := Option.isSome_iff_exists.1 hmatch
    rw [hn, literalBytes, patterns, ← eq_totalSize_of_matchSegments hn]

/-! ### The values of a path -/

/-- The values **make the path of the template**: each is put in place of its placeholder, is not
empty and contains no slash. Leading slashes do not count. -/
def Fills (template : String) (values : List (List Char)) (path : String) : Prop :=
  Proper values ∧ Instance (unrooted template.toList) values (unrooted path.toList)

/-- The bytes of an instance of a segment are those of its literal text and of its values. -/
theorem Instance.size_eq {s part : List Char} {vs : List (List Char)} (hs : IsPattern s)
    (h : Instance s vs part) : Utf8.size part = Utf8.size (literalText s) + totalSize vs := by
  rw [literalText]
  rcases (instance_pattern_iff hs).1 h with ⟨hp, rfl, rfl⟩ | ⟨hp, v, rfl, rfl⟩
  · rw [if_neg hp]
    rfl
  · rw [if_pos hp, totalSize, List.flatten_singleton, Utf8.size_append, Utf8.size_append,
      Utf8.size_append]
    omega

/-- The values of an instance of a segment are determined. -/
theorem Instance.values_eq {s part : List Char} {vs ws : List (List Char)} (hs : IsPattern s)
    (h : Instance s vs part) (h' : Instance s ws part) : vs = ws := by
  rcases (instance_pattern_iff hs).1 h with ⟨hp, rfl, rfl⟩ | ⟨hp, v, rfl, rfl⟩
  · rcases (instance_pattern_iff hs).1 h' with ⟨-, rfl, -⟩ | ⟨hp', -⟩
    · rfl
    · exact absurd hp' hp
  · rcases (instance_pattern_iff hs).1 h' with ⟨hp', -⟩ | ⟨-, w, rfl, heq⟩
    · exact absurd hp hp'
    · rw [List.append_cancel_left (List.append_cancel_right heq)]

/-- An instance of joined patterns has as many segments, and their bytes are those of the
literal texts and of the values. -/
theorem Instance.join_size_eq {s p : List Char} {rest vs : List (List Char)}
    (h : ∀ t ∈ s :: rest, IsPattern t ∧ '/' ∉ t) (hvs : Proper vs)
    (hi : Instance (List.intercalate ['/'] (s :: rest)) vs p) :
    (segments p).length = rest.length + 1 ∧
      totalSize (segments p) = totalSize ((s :: rest).map literalText) + totalSize vs := by
  induction rest generalizing s p vs with
  | nil =>
      obtain ⟨hs, hslash⟩ := h s List.mem_cons_self
      rw [List.intercalate_singleton] at hi
      have hsegs : segments p = [p] :=
        split_of_notMem (hi.slash_notMem hslash fun v hv => (hvs v hv).2)
      rw [hsegs, totalSize, List.flatten_singleton, hi.size_eq hs, List.map_singleton, totalSize,
        totalSize, List.flatten_singleton]
      exact ⟨rfl, rfl⟩
  | cons s' rest ih =>
      obtain ⟨⟨hs, hslash⟩, hrest⟩ := List.forall_mem_cons.1 h
      rw [List.intercalate_cons_cons, List.append_assoc] at hi
      obtain ⟨us, ws, part, p, rfl, rfl, hpart, ⟨-, hus⟩, hws, hi⟩ := hi.slash_inv hs hslash hvs
      obtain ⟨hlength, hsize⟩ := ih hrest hws hi
      have hsegs : segments (part ++ '/' :: p) = part :: segments p := split_append_cons hpart
      rw [hsegs, totalSize_cons, hsize, hus.size_eq hs, totalSize_append, List.length_cons,
        hlength]
      have hliteral : totalSize ((s :: s' :: rest).map literalText) =
          Utf8.size (literalText s) + totalSize ((s' :: rest).map literalText) :=
        totalSize_cons _ _
      exact ⟨rfl, by omega⟩

/-- The values of an instance of joined patterns are determined. -/
theorem Instance.join_values_eq {s p : List Char} {rest vs ws : List (List Char)}
    (h : ∀ t ∈ s :: rest, IsPattern t ∧ '/' ∉ t) (hvs : Proper vs) (hws : Proper ws)
    (hi : Instance (List.intercalate ['/'] (s :: rest)) vs p)
    (hi' : Instance (List.intercalate ['/'] (s :: rest)) ws p) : vs = ws := by
  induction rest generalizing s p vs ws with
  | nil =>
      rw [List.intercalate_singleton] at hi hi'
      exact hi.values_eq (h s List.mem_cons_self).1 hi'
  | cons s' rest ih =>
      obtain ⟨⟨hs, hslash⟩, hrest⟩ := List.forall_mem_cons.1 h
      rw [List.intercalate_cons_cons, List.append_assoc] at hi hi'
      obtain ⟨us, vs, part, p, rfl, rfl, hpart, ⟨-, hus⟩, hvs, hi⟩ := hi.slash_inv hs hslash hvs
      obtain ⟨us', ws, part', p', rfl, hp, hpart', ⟨-, hus'⟩, hws, hi'⟩ :=
        hi'.slash_inv hs hslash hws
      -- Both instances are cut at the first slash.
      obtain ⟨rfl, rfl⟩ := Text.append_cons_inj hpart hpart' hp
      rw [hus.values_eq hs hus', ih hrest hvs hws hi hi']

/-- **The values of a path are determined** by it and the template. -/
theorem Fills.unique {template path : String} {vs ws : List (List Char)} (h : IsTemplate template)
    (hv : Fills template vs path) (hw : Fills template ws path) : vs = ws := by
  obtain ⟨s, rest, -, hform, hjoin⟩ := h.exists_patterns
  obtain ⟨hvs, hv⟩ := hv
  obtain ⟨hws, hw⟩ := hw
  rw [hjoin] at hv hw
  exact hv.join_values_eq hform hvs hws hw

/-- **The bytes of a path's segments** are those of the template's literal text and of the
values; there are as many segments as in the template. -/
theorem Fills.totalSize_eq {template path : String} {vs : List (List Char)}
    (h : IsTemplate template) (hv : Fills template vs path) :
    (segments (unrooted path.toList)).length = (patterns template).length ∧
      totalSize (segments (unrooted path.toList)) = literalBytes template + totalSize vs := by
  obtain ⟨s, rest, hpatterns, hform, hjoin⟩ := h.exists_patterns
  obtain ⟨hvs, hv⟩ := hv
  rw [hjoin] at hv
  rw [literalBytes, hpatterns]
  exact hv.join_size_eq hform hvs

/-- **What a template matches, and with which score.** A path has a score against a template of
the documented form exactly if it has as many segments and values make it of the template; the
score is then the bytes of the segments less those of the values, which is the literal text of
the template. The values are the only ones. -/
theorem matchTemplate_exact {template : String} (h : IsTemplate template) (path : String) :
    (∀ n, matchTemplate template path = some n ↔
      (segments (unrooted path.toList)).length = (patterns template).length ∧
        ∃ values, Fills template values path ∧
          n + totalSize values = totalSize (segments (unrooted path.toList))) ∧
    (∀ n, matchTemplate template path = some n → n = literalBytes template) ∧
    (∀ vs ws, Fills template vs path → Fills template ws path → vs = ws) := by
  refine ⟨fun n => ?_, fun n hn => (matchTemplate_eq_some_iff.1 hn).2,
    fun vs ws => Fills.unique h⟩
  rw [matchTemplate_eq_some_iff, isSome_matchTemplate_iff h]
  constructor
  · rintro ⟨⟨vs, hvs⟩, rfl⟩
    obtain ⟨hlength, hsize⟩ := Fills.totalSize_eq h hvs
    exact ⟨hlength, vs, hvs, hsize.symm⟩
  · rintro ⟨-, vs, hvs, hn⟩
    obtain ⟨-, hsize⟩ := Fills.totalSize_eq h hvs
    exact ⟨⟨vs, hvs⟩, by omega⟩

/-- A value that contains the text behind its placeholder, and takes more bytes than it has
characters. -/
theorem matchTemplate_undelete :
    IsTemplate "/datasets/{id}:undelete" ∧
      matchTemplate "/datasets/{id}:undelete" "//datasets/é:undelete:undelete" = some 17 := by
  have h : IsTemplate "/datasets/{id}:undelete" := by decide
  refine ⟨h, ((matchTemplate_exact h _).1 17).2 ⟨by decide, ["é:undelete".toList], ?_, by decide⟩⟩
  have hname : '}' ∉ "id".toList := by decide
  refine ⟨List.forall_mem_singleton.2 (by decide), ?_⟩
  exact (Instance.of_notMem (t := "datasets/".toList) (by decide)).append
    (.placeholder hname (.of_notMem (t := ":undelete".toList) (by decide)))

end Scaffold.Route
