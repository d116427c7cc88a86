import Scaffold.Proofs.Route.Table

/-!
# How a request is answered

Every request is answered by one of three errors. Which one depends on the entries that cover
the path and on their verbs, and on nothing else of the request.

## Main results

* `dispatch_of_covers`, `dispatch_of_other_verb`, `dispatch_of_not_covers`: the answer in each
  of the three cases.
* `dispatch_trichotomy`: the three cases together, with the status and the headers that they
  share, and the answers of messages that agree on method and path.
-/

namespace Scaffold.Route

open BigQuery (Route routes)

/-- The answer of a status, by its number and name, with a message. -/
def reply (status : Nat) (name message : String) : Response where
  status := status
  headers := [("content-type", "application/json")]
  body := (Json.Value.object [("error", .object [
    ("code", .number status), ("message", .text message), ("status", .text name)])]).render

/-- Whether some entry with the verb of a request covers its path. -/
def IsServed (r : Request) : Prop :=
  ∃ e ∈ routes, e.httpMethod = r.method ∧ Covers e r.path

/-- Whether some entry, of whatever verb, covers the path of a request. -/
def IsKnown (r : Request) : Prop :=
  ∃ e ∈ routes, Covers e r.path

/-- No entry is found for a request exactly if none serves it. -/
theorem route?_eq_none_iff {r : Request} : route? r.method r.path = none ↔ ¬ IsServed r := by
  rw [Option.eq_none_iff_forall_ne_some]
  constructor
  · rintro h ⟨e, he, hverb, hcovers⟩
    exact h e (route?_eq_some_iff.2 ⟨he, hverb, (isSome_matchTemplate_iff_covers he).2 hcovers⟩)
  · intro h e he
    obtain ⟨hmem, hverb, hmatch⟩ := route?_eq_some_iff.1 he
    exact h ⟨e, hmem, hverb, (isSome_matchTemplate_iff_covers hmem).1 hmatch⟩

/-- Without regard to verbs, an entry is found for a path exactly if one covers it. -/
theorem isSome_bestMatch_iff {r : Request} :
    (bestMatch Route.template routes r.path).isSome ↔ IsKnown r := by
  rw [← not_iff_not, Option.not_isSome_iff_eq_none, bestMatch_eq_none_iff, IsKnown]
  push Not
  refine forall₂_congr fun e he => ?_
  rw [← isSome_matchTemplate_iff_covers he, Option.not_isSome_iff_eq_none]

/-- A request that some entry serves is answered as not implemented. -/
theorem dispatch_of_covers {r : Request} (h : IsServed r) :
    dispatch r =
      reply 501 "UNIMPLEMENTED" (r.method ++ " " ++ r.path ++ " is not implemented") := by
  rw [dispatch]
  cases hroute : route? r.method r.path with
  | none => exact absurd h (route?_eq_none_iff.1 hroute)
  | some entry => rfl

/-- A request whose path only entries of other verbs cover is answered as not allowed. -/
theorem dispatch_of_other_verb {r : Request} (h : ¬ IsServed r) (hknown : IsKnown r) :
    dispatch r =
      reply 405 "METHOD_NOT_ALLOWED" (r.method ++ " is not supported on " ++ r.path) := by
  rw [dispatch, route?_eq_none_iff.2 h]
  exact if_pos (isSome_bestMatch_iff.2 hknown)

/-- A request whose path no entry covers is answered as not found. -/
theorem dispatch_of_not_covers {r : Request} (h : ¬ IsKnown r) :
    dispatch r = reply 404 "NOT_FOUND" (r.path ++ " not found") := by
  have hserved : ¬ IsServed r := fun ⟨e, he, _, hcovers⟩ => h ⟨e, he, hcovers⟩
  rw [dispatch, route?_eq_none_iff.2 hserved]
  exact if_neg (mt isSome_bestMatch_iff.1 h)

/-- **The answer to a request, in three cases.** If an entry with its verb covers the path, it
is not implemented; if only entries of other verbs do, the verb is not supported; if none does,
the path is not found. There is no other status, the only header is the type of the content,
and messages with one method and one path have one answer, whatever their queries, headers and
bodies. -/
theorem dispatch_trichotomy (r : Request) :
    ((∃ e ∈ routes, e.httpMethod = r.method ∧ Covers e r.path) →
      dispatch r =
        reply 501 "UNIMPLEMENTED" (r.method ++ " " ++ r.path ++ " is not implemented")) ∧
    ((¬ ∃ e ∈ routes, e.httpMethod = r.method ∧ Covers e r.path) →
      (∃ e ∈ routes, Covers e r.path) →
      dispatch r =
        reply 405 "METHOD_NOT_ALLOWED" (r.method ++ " is not supported on " ++ r.path)) ∧
    ((¬ ∃ e ∈ routes, Covers e r.path) →
      dispatch r = reply 404 "NOT_FOUND" (r.path ++ " not found")) ∧
    (dispatch r).status ∈ [501, 405, 404] ∧
    (dispatch r).headers = [("content-type", "application/json")] ∧
    (∀ m : Message, m.request? = some r → answer? m = some (dispatch r)) ∧
    (∀ a b : Message, a.method = b.method → targetPath? a.target = targetPath? b.target →
      answer? a = answer? b) := by
  have hcases : dispatch r =
        reply 501 "UNIMPLEMENTED" (r.method ++ " " ++ r.path ++ " is not implemented") ∨
      dispatch r =
        reply 405 "METHOD_NOT_ALLOWED" (r.method ++ " is not supported on " ++ r.path) ∨
      dispatch r = reply 404 "NOT_FOUND" (r.path ++ " not found") := by
    by_cases hserved : IsServed r
    · exact .inl (dispatch_of_covers hserved)
    · by_cases hknown : IsKnown r
      · exact .inr (.inl (dispatch_of_other_verb hserved hknown))
      · exact .inr (.inr (dispatch_of_not_covers hknown))
  refine ⟨dispatch_of_covers, dispatch_of_other_verb, dispatch_of_not_covers, ?_, ?_, ?_, ?_⟩
  · rcases hcases with h | h | h <;> simp [h, reply]
  · rcases hcases with h | h | h <;> rw [h] <;> rfl
  · intro m hm
    rw [answer?, hm]
    rfl
  · intro a b hmethod hpath
    rw [answer?, answer?, Message.request?, Message.request?, hmethod, hpath]

/-- The path of a table under a verb that no table has: the verb is not supported. -/
theorem dispatch_post_table :
    (¬ ∃ e ∈ routes, e.httpMethod = "POST" ∧ Covers e "/projects/p/datasets/d/tables/t") ∧
      (∃ e ∈ routes, Covers e "/projects/p/datasets/d/tables/t") ∧
      dispatch ⟨"POST", "/projects/p/datasets/d/tables/t"⟩ =
        reply 405 "METHOD_NOT_ALLOWED"
          "POST is not supported on /projects/p/datasets/d/tables/t" := by
  have hserved : ¬ ∃ e ∈ routes, e.httpMethod = "POST" ∧
      Covers e "/projects/p/datasets/d/tables/t" :=
    (route?_eq_none_iff (r := ⟨"POST", "/projects/p/datasets/d/tables/t"⟩)).1 (by decide +kernel)
  have hknown : ∃ e ∈ routes, Covers e "/projects/p/datasets/d/tables/t" :=
    (isSome_bestMatch_iff (r := ⟨"POST", "/projects/p/datasets/d/tables/t"⟩)).1 (by decide +kernel)
  exact ⟨hserved, hknown, (dispatch_trichotomy _).2.1 hserved hknown⟩

end Scaffold.Route
