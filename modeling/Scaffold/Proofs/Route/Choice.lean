import Scaffold.Proofs.Route.Template

/-!
# The choice among candidates

Of the candidates whose templates match a path, the one of highest score is chosen, and the last
of several with the highest score. The choice is made in one pass, which keeps the best
candidate so far; the invariant of the pass is that what is kept is the choice among the
candidates passed (`Chosen`).

## Main results

* `chosen_step`, `chosen_run`: a step and a pass keep the invariant.
* `lastBest_of_bestMatch`: what is found matches, scores no less than what matches before it,
  and more than what matches after it.
* `bestMatch_eq_none_iff`: nothing is found only if no candidate matches.
* `bestMatch_eq_some_iff`: what is found where only one candidate can match.
-/

namespace Scaffold.Route

variable {α : Type} {template : α → String} {candidates : List α} {path : String}

/-- One step of the choice: a candidate that matches competes with the best so far. -/
def chooseStep (template : α → String) (path : String) (best : Option (Nat × α))
    (candidate : α) : Option (Nat × α) :=
  match matchTemplate (template candidate) path with
  | some score => some (better best score candidate)
  | none => best

/-- The choice is a fold of its steps. -/
theorem bestMatch_eq_foldl :
    bestMatch template candidates path =
      (candidates.foldl (chooseStep template path) none).map (·.2) := rfl

/-- **The last of highest score**: a candidate that matches with a score that no candidate
before it exceeds and that none after it reaches. -/
def LastBest (template : α → String) (path : String) (candidates : List α) (n : Nat) (c : α) :
    Prop :=
  ∃ before after, candidates = before ++ c :: after ∧
    matchTemplate (template c) path = some n ∧
    (∀ d ∈ before, ∀ m ∈ matchTemplate (template d) path, m ≤ n) ∧
    ∀ d ∈ after, ∀ m ∈ matchTemplate (template d) path, m < n

/-- The **best candidate so far**, with its score: the last of highest score, or none if none
matches. -/
def Chosen (template : α → String) (path : String) (candidates : List α) :
    Option (Nat × α) → Prop
  | none => ∀ d ∈ candidates, matchTemplate (template d) path = none
  | some (n, c) => LastBest template path candidates n c

/-- No candidate scores more than the last of highest score. -/
theorem LastBest.le {n m : Nat} {c d : α} (h : LastBest template path candidates n c)
    (hd : d ∈ candidates) (hm : matchTemplate (template d) path = some m) : m ≤ n := by
  obtain ⟨before, after, rfl, hc, hbefore, hafter⟩ := h
  rcases List.mem_append.1 hd with hd | hd
  · exact hbefore d hd m hm
  · rcases List.mem_cons.1 hd with rfl | hd
    · exact Nat.le_of_eq (Option.some.inj (hm.symm.trans hc))
    · exact Nat.le_of_lt (hafter d hd m hm)

/-- **A step keeps the best candidate so far.** -/
theorem chosen_step {best : Option (Nat × α)} (h : Chosen template path candidates best) (d : α) :
    Chosen template path (candidates ++ [d]) (chooseStep template path best d) := by
  rw [chooseStep]
  split
  · next score hscore =>
    match best with
    | none =>
        refine ⟨candidates, [], rfl, hscore, fun e he m hm => ?_, nofun⟩
        rw [h e he] at hm
        cases hm
    | some (n, c) =>
        by_cases hle : n ≤ score
        · have hbetter : better (some (n, c)) score d = (score, d) := if_pos hle
          rw [hbetter]
          exact ⟨candidates, [], rfl, hscore, fun e he m hm => Nat.le_trans (h.le he hm) hle, nofun⟩
        · have hbetter : better (some (n, c)) score d = (n, c) := if_neg hle
          obtain ⟨before, after, rfl, hc, hbefore, hafter⟩ := h
          rw [hbetter]
          refine ⟨before, after ++ [d], by simp, hc, hbefore,
            List.forall_mem_append.2 ⟨hafter, List.forall_mem_singleton.2 fun m hm => ?_⟩⟩
          obtain rfl := Option.some.inj (hscore.symm.trans hm)
          exact Nat.lt_of_not_le hle
  · next hnone =>
    match best with
    | none => exact List.forall_mem_append.2 ⟨h, List.forall_mem_singleton.2 hnone⟩
    | some (n, c) =>
        obtain ⟨before, after, rfl, hc, hbefore, hafter⟩ := h
        refine ⟨before, after ++ [d], by simp, hc, hbefore,
          List.forall_mem_append.2 ⟨hafter, List.forall_mem_singleton.2 fun m hm => ?_⟩⟩
        rw [hnone] at hm
        cases hm

/-- **A pass keeps the best candidate so far.** -/
theorem chosen_run {best : Option (Nat × α)} (h : Chosen template path candidates best)
    (more : List α) :
    Chosen template path (candidates ++ more) (more.foldl (chooseStep template path) best) := by
  induction more generalizing candidates best with
  | nil => rwa [List.append_nil]
  | cons d more ih =>
      have hrun := ih (chosen_step h d)
      rwa [List.append_assoc] at hrun

/-- The whole pass finds the last candidate of highest score. -/
theorem chosen_foldl (template : α → String) (path : String) (candidates : List α) :
    Chosen template path candidates (candidates.foldl (chooseStep template path) none) := by
  have hstart : Chosen template path [] none := nofun
  exact chosen_run hstart candidates

/-- **What is found is the last candidate of highest score.** -/
theorem lastBest_of_bestMatch {c : α} (h : bestMatch template candidates path = some c) :
    ∃ n, LastBest template path candidates n c := by
  rw [bestMatch_eq_foldl, Option.map_eq_some_iff] at h
  obtain ⟨⟨n, d⟩, hfold, rfl⟩ := h
  have hchosen := chosen_foldl template path candidates
  rw [hfold] at hchosen
  exact ⟨n, hchosen⟩

/-- The candidate that is found matches. -/
theorem bestMatch_eq_some {c : α} (h : bestMatch template candidates path = some c) :
    c ∈ candidates ∧ (matchTemplate (template c) path).isSome := by
  obtain ⟨n, before, after, rfl, hc, -⟩ := lastBest_of_bestMatch h
  exact ⟨by simp, Option.isSome_of_eq_some hc⟩

/-- The choice finds no candidate exactly if none matches. -/
theorem bestMatch_eq_none_iff :
    bestMatch template candidates path = none ↔
      ∀ c ∈ candidates, matchTemplate (template c) path = none := by
  constructor
  · intro h
    rw [bestMatch_eq_foldl, Option.map_eq_none_iff] at h
    have hchosen := chosen_foldl template path candidates
    rwa [h] at hchosen
  · intro h
    refine Option.eq_none_iff_forall_ne_some.2 fun c hc => ?_
    obtain ⟨hmem, hmatch⟩ := bestMatch_eq_some hc
    rw [h c hmem] at hmatch
    cases hmatch

/-- Where only one candidate can match, the choice finds exactly the one that does. -/
theorem bestMatch_eq_some_iff {c : α}
    (hunique : ∀ a ∈ candidates, ∀ b ∈ candidates, (matchTemplate (template a) path).isSome →
      (matchTemplate (template b) path).isSome → a = b) :
    bestMatch template candidates path = some c ↔
      c ∈ candidates ∧ (matchTemplate (template c) path).isSome := by
  refine ⟨bestMatch_eq_some, fun ⟨hmem, hmatch⟩ => ?_⟩
  cases hbest : bestMatch template candidates path with
  | none => simp [bestMatch_eq_none_iff.1 hbest c hmem] at hmatch
  | some d =>
      obtain ⟨hmem', hmatch'⟩ := bestMatch_eq_some hbest
      rw [hunique d hmem' c hmem hmatch' hmatch]

end Scaffold.Route
