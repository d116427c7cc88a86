import Mathlib.Data.List.Forall2
import Mathlib.Data.List.Infix
import Scaffold.Proofs.Route.Choice
import Scaffold.Route.Dispatch

/-!
# The table of routes is unambiguous

No path matches two entries of the table under one verb, whatever values its segments have.
The reason is local. Two patterns that one segment matches *overlap*: their literal texts are
comparable at either end, and equal where neither has a placeholder. Overlap is decidable, and
no two entries of one verb have templates that overlap in every segment.

## Main results

* `overlap_of_matchTemplate`: the templates that one path matches overlap segment by segment.
* `eq_of_matchTemplate`: two places of the table with one verb whose templates match one path
  are the same place.
* `route?_unambiguous_exact`: an entry serves exactly the instances of its own template, and
  neither the order of the table nor the scores can change the choice.
-/

namespace Scaffold.Route

open BigQuery (Route routes)

/-! ### Overlapping patterns -/

/-- The text with which every match of a pattern begins. -/
def front (p : List Char) : List Char :=
  if HasPlaceholder p then lead p else p

/-- The text with which every match of a pattern ends. -/
def back (p : List Char) : List Char :=
  if HasPlaceholder p then trail p else p

/-- **Overlap.** What two patterns that one segment matches have in common. -/
def Overlap (p q : List Char) : Prop :=
  (front p <+: front q ∨ front q <+: front p) ∧ (back p <:+ back q ∨ back q <:+ back p) ∧
    (HasPlaceholder p ∨ HasPlaceholder q ∨ p = q)

instance : DecidableRel Overlap := fun _ _ => inferInstanceAs (Decidable (_ ∧ _ ∧ _))

/-- A match of a pattern begins and ends as the pattern does, and is the pattern itself if it
has no placeholder. -/
theorem front_back_of_matchSegment {p s : List Char} (h : (matchSegment p s).isSome) :
    front p <+: s ∧ back p <:+ s ∧ (HasPlaceholder p ∨ s = p) := by
  obtain ⟨n, hn⟩ := Option.isSome_iff_exists.1 h
  rcases matchSegment_eq_some_iff.1 hn with ⟨hp, v, -, rfl, -⟩ | ⟨hp, rfl, -⟩
  · rw [front, back, if_pos hp, if_pos hp]
    exact ⟨⟨v ++ trail p, (List.append_assoc ..).symm⟩, ⟨lead p ++ v, rfl⟩, .inl hp⟩
  · have hfront : front s = s := if_neg hp
    have hback : back s = s := if_neg hp
    rw [hfront, hback]
    exact ⟨List.prefix_rfl, List.suffix_rfl, .inr rfl⟩

/-- Patterns that one segment matches overlap. -/
theorem overlap_of_matchSegment {p q s : List Char} (hp : (matchSegment p s).isSome)
    (hq : (matchSegment q s).isSome) : Overlap p q := by
  obtain ⟨hfront, hback, hself⟩ := front_back_of_matchSegment hp
  obtain ⟨hfront', hback', hself'⟩ := front_back_of_matchSegment hq
  refine ⟨List.prefix_or_prefix_of_prefix hfront hfront',
    List.suffix_or_suffix_of_suffix hback hback', ?_⟩
  rcases hself with hself | rfl
  · exact .inl hself
  · exact .inr hself'

/-- Patterns that the segments of one path match overlap one by one. -/
theorem overlap_of_matchSegments {ps qs parts : List (List Char)}
    (hp : (matchSegments ps parts).isSome) (hq : (matchSegments qs parts).isSome) :
    List.Forall₂ Overlap ps qs := by
  induction parts generalizing ps qs with
  | nil =>
      cases ps <;> cases qs <;> simp_all [matchSegments]
  | cons part parts ih =>
      cases ps with
      | nil => simp [matchSegments] at hp
      | cons p ps =>
          cases qs with
          | nil => simp [matchSegments] at hq
          | cons q qs =>
              obtain ⟨hp, hps⟩ := isSome_matchSegments_cons.1 hp
              obtain ⟨hq, hqs⟩ := isSome_matchSegments_cons.1 hq
              exact .cons (overlap_of_matchSegment hp hq) (ih hps hqs)

/-- The templates that one path matches overlap segment by segment. -/
theorem overlap_of_matchTemplate {t u path : String} (ht : (matchTemplate t path).isSome)
    (hu : (matchTemplate u path).isSome) : List.Forall₂ Overlap (patterns t) (patterns u) :=
  overlap_of_matchSegments ht hu

/-! ### The entries of the table -/

/-- What of an entry decides which requests it serves: its verb and its patterns. -/
def key (r : Route) : String × List (List Char) :=
  (r.httpMethod, patterns r.template)

section Table

open BigQuery BigQuery.Template

/-- All templates of the table have the documented form. -/
theorem isPattern_of_mem_routes : ∀ k ∈ routes.map key, ∀ s ∈ k.2, IsPattern s := by
  simp only [routes, List.map, key, patterns, policy, policies, table, tables, dataset, datasets,
    project, projects, query, queries, job, jobs, routine, routines, model, models, within,
    String.toList_append]
  decide +kernel

/-- No two entries of one verb have templates that overlap in every segment. -/
theorem routes_pairwise_not_overlap :
    (routes.map key).Pairwise fun a b => a.1 = b.1 → ¬ List.Forall₂ Overlap a.2 b.2 := by
  simp only [routes, List.map, key, patterns, policy, policies, table, tables, dataset, datasets,
    project, projects, query, queries, job, jobs, routine, routines, model, models, within,
    String.toList_append]
  decide +kernel

end Table

/-- The paths that an entry **covers**: the instances of its template by values that are not
empty and contain no slash. Leading slashes do not count. -/
def Covers (r : Route) (path : String) : Prop :=
  ∃ values, Proper values ∧ Instance (unrooted r.template.toList) values (unrooted path.toList)

/-- An entry matches exactly the paths that it covers. -/
theorem isSome_matchTemplate_iff_covers {r : Route} (hr : r ∈ routes) {path : String} :
    (matchTemplate r.template path).isSome ↔ Covers r path :=
  isSome_matchTemplate_iff (isPattern_of_mem_routes _ (List.mem_map_of_mem hr))

/-- Of two different places of the table with one verb, at most one matches a path. -/
theorem not_matchTemplate_of_lt {i j : Nat} {r s : Route} {path : String} (hij : i < j)
    (hr : routes[i]? = some r) (hs : routes[j]? = some s) (hverb : r.httpMethod = s.httpMethod)
    (hmatch : (matchTemplate r.template path).isSome) :
    ¬ (matchTemplate s.template path).isSome := by
  intro hmatch'
  obtain ⟨hi, rfl⟩ := List.getElem?_eq_some_iff.1 hr
  obtain ⟨hj, rfl⟩ := List.getElem?_eq_some_iff.1 hs
  have hkeys := List.pairwise_iff_getElem.1 (List.pairwise_map.1 routes_pairwise_not_overlap)
    i j hi hj hij
  exact hkeys hverb (overlap_of_matchTemplate hmatch hmatch')

/-- Two places of the table with one verb whose templates match one path are the same. -/
theorem eq_of_matchTemplate {i j : Nat} {r s : Route} {path : String}
    (hr : routes[i]? = some r) (hs : routes[j]? = some s) (hverb : r.httpMethod = s.httpMethod)
    (hmatch : (matchTemplate r.template path).isSome)
    (hmatch' : (matchTemplate s.template path).isSome) : i = j := by
  rcases Nat.lt_trichotomy i j with hij | hij | hij
  · exact absurd hmatch' (not_matchTemplate_of_lt hij hr hs hverb hmatch)
  · exact hij
  · exact absurd hmatch (not_matchTemplate_of_lt hij hs hr hverb.symm hmatch')

/-- Entries with one verb whose templates match one path are the same. -/
theorem eq_of_mem_of_matchTemplate {r s : Route} {path : String} (hr : r ∈ routes)
    (hs : s ∈ routes) (hverb : r.httpMethod = s.httpMethod)
    (hmatch : (matchTemplate r.template path).isSome)
    (hmatch' : (matchTemplate s.template path).isSome) : r = s := by
  obtain ⟨i, hi⟩ := List.mem_iff_getElem?.1 hr
  obtain ⟨j, hj⟩ := List.mem_iff_getElem?.1 hs
  obtain rfl := eq_of_matchTemplate hi hj hverb hmatch hmatch'
  exact Option.some.inj (hi.symm.trans hj)

/-! ### The entry that serves a request -/

/-- Whether an entry serves a method and a path. -/
def Serves (method path : String) (r : Route) : Prop :=
  r.httpMethod = method ∧ (matchTemplate r.template path).isSome

instance (method path : String) : DecidablePred (Serves method path) :=
  fun _ => inferInstanceAs (Decidable (_ ∧ _))

/-- In whatever order the table is, the choice finds exactly the entry that serves. -/
theorem bestMatch_eq_some_iff_serves {entries : List Route} (hperm : entries.Perm routes)
    {method path : String} {r : Route} :
    bestMatch Route.template (entries.filter (·.httpMethod = method)) path = some r ↔
      r ∈ routes ∧ Serves method path r := by
  have hmem : ∀ a, a ∈ entries.filter (·.httpMethod = method) ↔
      a ∈ routes ∧ a.httpMethod = method := fun a => by
    rw [List.mem_filter, hperm.mem_iff, decide_eq_true_iff]
  rw [bestMatch_eq_some_iff, hmem, and_assoc]
  · rfl
  · intro a ha b hb hmatch hmatch'
    have ha' := (hmem a).1 ha
    have hb' := (hmem b).1 hb
    exact eq_of_mem_of_matchTemplate ha'.1 hb'.1 (ha'.2.trans hb'.2.symm) hmatch hmatch'

/-- The entry for a method and a path is the one that serves them. -/
theorem route?_eq_some_iff {method path : String} {r : Route} :
    route? method path = some r ↔ r ∈ routes ∧ Serves method path r :=
  bestMatch_eq_some_iff_serves (.refl _)

/-- The place of the entry for a method and a path is that of the one that serves them. -/
theorem routeIndex?_eq_some_iff {method path : String} {i : Nat} :
    routeIndex? method path = some i ↔ ∃ r, routes[i]? = some r ∧ Serves method path r := by
  have hmem : ∀ e : Route × Nat, e ∈ routes.zipIdx.filter (·.1.httpMethod = method) ↔
      routes[e.2]? = some e.1 ∧ e.1.httpMethod = method := fun e => by
    rw [List.mem_filter, List.mem_zipIdx_iff_getElem?, decide_eq_true_iff]
  have hfound : ∀ e : Route × Nat,
      bestMatch (fun r : Route × Nat => r.1.template)
          (routes.zipIdx.filter (·.1.httpMethod = method)) path = some e ↔
        routes[e.2]? = some e.1 ∧ Serves method path e.1 := fun e => by
    rw [bestMatch_eq_some_iff, hmem, and_assoc]
    · rfl
    · rintro ⟨r, j⟩ hr ⟨s, k⟩ hs hmatch hmatch'
      have hr' := (hmem _).1 hr
      have hs' := (hmem _).1 hs
      obtain rfl : j = k :=
        eq_of_matchTemplate hr'.1 hs'.1 (hr'.2.trans hs'.2.symm) hmatch hmatch'
      obtain rfl : r = s := Option.some.inj (hr'.1.symm.trans hs'.1)
      rfl
  rw [routeIndex?, Option.map_eq_some_iff]
  constructor
  · rintro ⟨⟨r, j⟩, he, rfl⟩
    exact ⟨r, (hfound _).1 he⟩
  · rintro ⟨r, hr⟩
    exact ⟨(r, i), (hfound _).2 hr, rfl⟩

/-- **A way to choose** from a list: it gives nothing only for the empty list, and otherwise a
member. -/
def Chooses (choose : List Route → Option Route) : Prop :=
  ∀ entries, (choose entries = none ↔ entries = []) ∧
    ∀ r, choose entries = some r → r ∈ entries

/-- Whatever the way to choose, and in whatever order the table is, of the entries that serve
the same one is chosen. -/
theorem choose_serves {choose : List Route → Option Route} (hchoose : Chooses choose)
    {entries : List Route} (hperm : entries.Perm routes) (method path : String) :
    choose (entries.filter (Serves method path)) = route? method path := by
  have hmem : ∀ a, a ∈ entries.filter (Serves method path) ↔
      a ∈ routes ∧ Serves method path a := fun a => by
    rw [List.mem_filter, hperm.mem_iff, decide_eq_true_iff]
  obtain ⟨hnone, hsome⟩ := hchoose (entries.filter (Serves method path))
  cases hc : choose (entries.filter (Serves method path)) with
  | some r => exact (route?_eq_some_iff.2 ((hmem r).1 (hsome r hc))).symm
  | none =>
      refine (Option.eq_none_iff_forall_ne_some.2 fun r hr => ?_).symm
      have hr := (hmem r).2 (route?_eq_some_iff.1 hr)
      rw [hnone.1 hc] at hr
      exact List.not_mem_nil hr

/-- **Routing is unambiguous and exact.** Of the entries with a verb at most one has a template
that matches a path. The entry at a place of the table is found exactly if it has the verb and
covers the path. The order of the table does not matter, nor do the scores: every way to choose
from the entries that match finds the same one. -/
theorem route?_unambiguous_exact (method path : String) :
    (∀ (i j : Nat) (r s : Route), routes[i]? = some r → routes[j]? = some s →
      r.httpMethod = method → s.httpMethod = method → (matchTemplate r.template path).isSome →
      (matchTemplate s.template path).isSome → i = j) ∧
    (∀ i : Nat, routeIndex? method path = some i ↔
      ∃ r, routes[i]? = some r ∧ r.httpMethod = method ∧ Covers r path) ∧
    route? method path = (routeIndex? method path).bind (routes[·]?) ∧
    (∀ entries : List Route, entries.Perm routes →
      bestMatch Route.template (entries.filter (·.httpMethod = method)) path =
        route? method path) ∧
    (∀ (choose : List Route → Option Route) (entries : List Route), Chooses choose →
      entries.Perm routes →
      choose (entries.filter (Serves method path)) = route? method path) := by
  refine ⟨?_, ?_, ?_, ?_, ?_⟩
  · rintro i j r s hr hs rfl hverb hmatch hmatch'
    exact eq_of_matchTemplate hr hs hverb.symm hmatch hmatch'
  · intro i
    rw [routeIndex?_eq_some_iff]
    refine exists_congr fun r => and_congr_right fun hr => and_congr_right fun _ => ?_
    exact isSome_matchTemplate_iff_covers (List.mem_of_getElem? hr)
  · ext r
    rw [route?_eq_some_iff, Option.bind_eq_some_iff, List.mem_iff_getElem?]
    simp only [routeIndex?_eq_some_iff]
    constructor
    · rintro ⟨⟨i, hi⟩, hr⟩
      exact ⟨i, ⟨r, hi, hr⟩, hi⟩
    · rintro ⟨i, ⟨s, hs, hserves⟩, hi⟩
      obtain rfl := Option.some.inj (hs.symm.trans hi)
      exact ⟨⟨i, hi⟩, hserves⟩
  · intro entries hperm
    ext r
    rw [bestMatch_eq_some_iff_serves hperm, route?_eq_some_iff]
  · intro choose entries hchoose hperm
    exact choose_serves hchoose hperm method path

/-- A value that contains a colon, in a segment whose pattern ends in a colon and a word: only
the entry with that word serves the path. -/
theorem route?_getIamPolicy :
    routes.reverse.Perm routes ∧ Chooses List.head? ∧
      routeIndex? "POST" "/projects/p/datasets/d/tables/t1:getIamPolicy" = some 32 ∧
      List.head? (routes.reverse.filter
          (Serves "POST" "/projects/p/datasets/d/tables/t1:getIamPolicy")) =
        route? "POST" "/projects/p/datasets/d/tables/t1:getIamPolicy" := by
  obtain ⟨-, hindex, -, -, horder⟩ :=
    route?_unambiguous_exact "POST" "/projects/p/datasets/d/tables/t1:getIamPolicy"
  have hperm : routes.reverse.Perm routes := List.reverse_perm _
  have hhead : Chooses List.head? := fun entries =>
    ⟨List.head?_eq_none_iff, fun _ => List.mem_of_head?⟩
  refine ⟨hperm, hhead, (hindex 32).2 ⟨_, rfl, rfl, ?_⟩, horder _ _ hhead hperm⟩
  exact (isSome_matchTemplate_iff_covers (List.mem_of_getElem? (i := 32) rfl)).1
    (by decide +kernel)

end Scaffold.Route
