import Scaffold.Proofs.Route.Choice

/-!
# The choice as a maximum

What is chosen among candidates is determined by `LastBest`: it matches, nothing scores higher,
and what matches behind it scores lower. The winning score is therefore the same in whatever
order the candidates stand, and candidates that score lower than the winner, or do not match at
all, may be put in or left out at any places.

## Main definitions

* `bestScore` - the score of the candidate that is chosen.
* `Merged` - a list is put together from two others, each in its order.

## Main results

* `bestMatch_eq_some_iff_lastBest`: what is chosen is the last of highest score, and nothing else.
* `bestScore_perm`: the winning score does not depend on the order of the candidates.
* `bestMatch_merged`: what scores lower than the winner does not change the choice.
* `bestMatch_maximal`: all of it.
-/

namespace Scaffold.Route

variable {α : Type} {template : α → String} {candidates others extra more : List α} {path : String}
  {n m : Nat} {c d : α}

/-! ### What is chosen -/

/-- The last of highest score is found at **one place only**: of two such places the candidate at
the one behind would have to score lower than itself. -/
theorem LastBest.unique (hc : LastBest template path candidates n c)
    (hd : LastBest template path candidates m d) : c = d := by
  obtain ⟨before, after, rfl, hcn, hbefore, hafter⟩ := hc
  obtain ⟨before', after', heq, hdm, hbefore', hafter'⟩ := hd
  rcases List.append_eq_append_iff.1 heq with ⟨between, rfl, hrest⟩ | ⟨between, rfl, hrest⟩
  · cases between with
    | nil => exact (List.cons.inj hrest).1
    | cons e between =>
        obtain ⟨rfl, rfl⟩ := List.cons.inj hrest
        have hlt := hafter d (by simp) m hdm
        have hle := hbefore' c (by simp) n hcn
        omega
  · cases between with
    | nil => exact (List.cons.inj hrest).1.symm
    | cons e between =>
        obtain ⟨rfl, rfl⟩ := List.cons.inj hrest
        have hlt := hafter' c (by simp) n hcn
        have hle := hbefore d (by simp) m hdm
        omega

/-- What is chosen is **the last of highest score**, and nothing else is. -/
theorem bestMatch_eq_some_iff_lastBest :
    bestMatch template candidates path = some c ↔ ∃ n, LastBest template path candidates n c := by
  refine ⟨lastBest_of_bestMatch, fun ⟨n, hc⟩ => ?_⟩
  cases hbest : bestMatch template candidates path with
  | none =>
      obtain ⟨before, after, rfl, hcn, -⟩ := hc
      rw [bestMatch_eq_none_iff.1 hbest c (by simp)] at hcn
      cases hcn
  | some d =>
      obtain ⟨m, hd⟩ := lastBest_of_bestMatch hbest
      rw [hd.unique hc]

/-! ### The winning score -/

/-- The **score of the candidate that is chosen**. -/
def bestScore (template : α → String) (candidates : List α) (path : String) : Option Nat :=
  (bestMatch template candidates path).bind fun c => matchTemplate (template c) path

/-- A winning score is that of the last of highest score. -/
theorem bestScore_eq_some_iff :
    bestScore template candidates path = some n ↔ ∃ c, LastBest template path candidates n c := by
  rw [bestScore, Option.bind_eq_some_iff]
  constructor
  · rintro ⟨c, hbest, hcn⟩
    obtain ⟨m, hc⟩ := lastBest_of_bestMatch hbest
    obtain ⟨before, after, -, hcm, -⟩ := id hc
    obtain rfl : n = m := Option.some.inj (hcn.symm.trans hcm)
    exact ⟨c, hc⟩
  · rintro ⟨c, hc⟩
    obtain ⟨before, after, -, hcn, -⟩ := id hc
    exact ⟨c, bestMatch_eq_some_iff_lastBest.2 ⟨n, hc⟩, hcn⟩

/-- A score wins just if **some candidate has it and none exceeds it**. -/
theorem bestScore_eq_some_iff_max :
    bestScore template candidates path = some n ↔
      (∃ c ∈ candidates, matchTemplate (template c) path = some n) ∧
        ∀ d ∈ candidates, ∀ m ∈ matchTemplate (template d) path, m ≤ n := by
  rw [bestScore_eq_some_iff]
  constructor
  · rintro ⟨c, hc⟩
    refine ⟨?_, fun d hd m hm => hc.le hd hm⟩
    obtain ⟨before, after, rfl, hcn, -⟩ := hc
    exact ⟨c, by simp, hcn⟩
  · rintro ⟨⟨c, hmem, hcn⟩, hmax⟩
    cases hbest : bestMatch template candidates path with
    | none =>
        rw [bestMatch_eq_none_iff.1 hbest c hmem] at hcn
        cases hcn
    | some d =>
        obtain ⟨m, hd⟩ := lastBest_of_bestMatch hbest
        have hle := hd.le hmem hcn
        have hge : m ≤ n := by
          obtain ⟨before, after, rfl, hdm, -⟩ := hd
          exact hmax d (by simp) m hdm
        obtain rfl : m = n := Nat.le_antisymm hge hle
        exact ⟨d, hd⟩

/-- The winning score **does not depend on the order** of the candidates. -/
theorem bestScore_perm (h : others.Perm candidates) :
    bestScore template others path = bestScore template candidates path := by
  refine Option.ext fun n => ?_
  rw [bestScore_eq_some_iff_max, bestScore_eq_some_iff_max]
  simp only [h.mem_iff]

/-! ### Candidates put in and left out -/

/-- A list **merged** from two others: it has the members of both, those of each in their
order. -/
inductive Merged : List α → List α → List α → Prop where
  | nil : Merged [] [] []
  | left {a : α} {as bs cs : List α} : Merged as bs cs → Merged (a :: as) bs (a :: cs)
  | right {b : α} {as bs cs : List α} : Merged as bs cs → Merged as (b :: bs) (b :: cs)

/-- The members of a merged list are those of the two. -/
theorem Merged.mem_iff (h : Merged candidates extra more) :
    d ∈ more ↔ d ∈ candidates ∨ d ∈ extra := by
  induction h with
  | nil => simp
  | left _ ih => rw [List.mem_cons, List.mem_cons, ih, or_assoc]
  | right _ ih => rw [List.mem_cons, List.mem_cons, ih, or_left_comm]

/-- A member of the first list keeps its place between those in front of it and those behind
it. -/
theorem Merged.split {before after : List α} (h : Merged (before ++ c :: after) extra more) :
    ∃ front back, more = front ++ c :: back ∧
      (∀ d ∈ front, d ∈ before ∨ d ∈ extra) ∧ ∀ d ∈ back, d ∈ after ∨ d ∈ extra := by
  generalize hlist : before ++ c :: after = list at h
  induction h generalizing before with
  | nil => simp at hlist
  | @left a as bs cs hmerged ih =>
      cases before with
      | nil =>
          obtain ⟨rfl, rfl⟩ := List.cons.inj hlist
          exact ⟨[], cs, rfl, nofun, fun d hd => hmerged.mem_iff.1 hd⟩
      | cons b before =>
          obtain ⟨rfl, hrest⟩ := List.cons.inj hlist
          obtain ⟨front, back, rfl, hfront, hback⟩ := ih hrest
          refine ⟨b :: front, back, rfl, fun d hd => ?_, hback⟩
          rcases List.mem_cons.1 hd with rfl | hd
          · exact .inl List.mem_cons_self
          · exact (hfront d hd).imp_left (List.mem_cons_of_mem b)
  | @right b as bs cs _ ih =>
      obtain ⟨front, back, rfl, hfront, hback⟩ := ih hlist
      refine ⟨b :: front, back, rfl, fun d hd => ?_, fun d hd => ?_⟩
      · rcases List.mem_cons.1 hd with rfl | hd
        · exact .inr List.mem_cons_self
        · exact (hfront d hd).imp_right (List.mem_cons_of_mem b)
      · exact (hback d hd).imp_right (List.mem_cons_of_mem b)

/-- The last of highest score stays so where candidates of **lower score** are put in. -/
theorem LastBest.merged (hc : LastBest template path candidates n c)
    (hmerged : Merged candidates extra more)
    (hextra : ∀ d ∈ extra, ∀ m ∈ matchTemplate (template d) path, m < n) :
    LastBest template path more n c := by
  obtain ⟨before, after, rfl, hcn, hbefore, hafter⟩ := hc
  obtain ⟨front, back, rfl, hfront, hback⟩ := hmerged.split
  refine ⟨front, back, rfl, hcn, fun d hd m hm => ?_, fun d hd m hm => ?_⟩
  · rcases hfront d hd with hd | hd
    · exact hbefore d hd m hm
    · exact Nat.le_of_lt (hextra d hd m hm)
  · rcases hback d hd with hd | hd
    · exact hafter d hd m hm
    · exact hextra d hd m hm

/-- Candidates that score **lower than the winner** do not change the choice. -/
theorem bestMatch_merged (hmerged : Merged candidates extra more)
    (hscore : bestScore template candidates path = some n)
    (hextra : ∀ d ∈ extra, ∀ m ∈ matchTemplate (template d) path, m < n) :
    bestMatch template more path = bestMatch template candidates path := by
  obtain ⟨c, hc⟩ := bestScore_eq_some_iff.1 hscore
  rw [bestMatch_eq_some_iff_lastBest.2 ⟨n, hc⟩,
    bestMatch_eq_some_iff_lastBest.2 ⟨n, hc.merged hmerged hextra⟩]

/-- Nor do candidates that do not match, whether there is a winner or not. -/
theorem bestMatch_merged_of_unmatched (hmerged : Merged candidates extra more)
    (hextra : ∀ d ∈ extra, matchTemplate (template d) path = none) :
    bestMatch template more path = bestMatch template candidates path := by
  cases hbest : bestMatch template candidates path with
  | none =>
      refine bestMatch_eq_none_iff.2 fun d hd => ?_
      rcases hmerged.mem_iff.1 hd with hd | hd
      · exact bestMatch_eq_none_iff.1 hbest d hd
      · exact hextra d hd
  | some c =>
      obtain ⟨n, hc⟩ := lastBest_of_bestMatch hbest
      rw [← hbest]
      refine bestMatch_merged hmerged (bestScore_eq_some_iff.2 ⟨c, hc⟩) fun d hd m hm => ?_
      rw [hextra d hd] at hm
      cases hm

/-- **The choice is a maximum, with the last of equal ones.** It finds nothing just if no candidate
matches; it finds a candidate just if this one matches, no other scores higher, and those behind
it that match score lower. The winning score does not depend on the order of the candidates, and
the choice does not change where candidates that do not match, or that score lower than the
winner, are put in or left out. -/
theorem bestMatch_maximal (template : α → String) (candidates : List α) (path : String) :
    (bestMatch template candidates path = none ↔
      ∀ c ∈ candidates, matchTemplate (template c) path = none) ∧
    (∀ c, bestMatch template candidates path = some c ↔
      ∃ n, LastBest template path candidates n c) ∧
    (∀ others, others.Perm candidates →
      bestScore template others path = bestScore template candidates path) ∧
    ∀ extra more, Merged candidates extra more →
      ((∀ d ∈ extra, matchTemplate (template d) path = none) →
        bestMatch template more path = bestMatch template candidates path) ∧
      ∀ n, bestScore template candidates path = some n →
        (∀ d ∈ extra, ∀ m ∈ matchTemplate (template d) path, m < n) →
        bestMatch template more path = bestMatch template candidates path :=
  ⟨bestMatch_eq_none_iff, fun _ => bestMatch_eq_some_iff_lastBest, fun _ => bestScore_perm,
    fun _ _ hmerged => ⟨bestMatch_merged_of_unmatched hmerged,
      fun _ hscore => bestMatch_merged hmerged hscore⟩⟩

/-- Of two placeholders the last is chosen, also with a template between them that does not
match. -/
theorem bestMatch_maximal_tie :
    bestMatch (·.1) [("/{a}", 0), ("/{b}", 1)] "/y" = some ("/{b}", 1) ∧
      bestMatch (·.1) [("/{a}", 0), ("/x", 2), ("/{b}", 1)] "/y" = some ("/{b}", 1) := by
  have hbest : bestMatch (·.1) [("/{a}", 0), ("/{b}", 1)] "/y" = some ("/{b}", 1) := by decide
  obtain ⟨-, -, -, hmerged⟩ := bestMatch_maximal (·.1) [("/{a}", 0), ("/{b}", 1)] "/y"
  refine ⟨hbest, ((hmerged [("/x", 2)] _ (.left (.right (.left .nil)))).1 ?_).trans hbest⟩
  decide

end Scaffold.Route
