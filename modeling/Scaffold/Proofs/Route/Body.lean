import Scaffold.Proofs.Json.Written
import Scaffold.Route.Dispatch

/-!
# What the body of an answer says

The body of every answer is a JSON text, and says one value: an error with its status as a number
and by name, and with a message. Whatever characters the message has, it stands in the value as it
was given, and nothing else of the value depends on it. The message to a request has the path of
the request in it.

## Main definitions

* `report` - what the body of an error has to say.

## Main results

* `errorResponse_reports` - what the body of an error says.
* `exists_dispatch_eq` - every answer is an error whose message has the path in it.
* `body_reports` - what the body of the answer to a request says.
-/

namespace Scaffold.Route

open Json (Says)
open Text (Utf8.encode)

/-- **The error that a body has to report**: an object with the one member `error`, and in it the
status, the message and the name of the status. -/
def report (status : Nat) (message : String) : Json.Value :=
  .object [("error", .object [("code", .number status), ("message", .text message),
    ("status", .text (
      if status = 404 then "NOT_FOUND"
      else if status = 405 then "METHOD_NOT_ALLOWED"
      else if status = 501 then "UNIMPLEMENTED"
      else "UNKNOWN"))])]

/-- The names of the statuses in a body. -/
theorem statusName_eq (status : Nat) :
    statusName status =
      if status = 404 then "NOT_FOUND"
      else if status = 405 then "METHOD_NOT_ALLOWED"
      else if status = 501 then "UNIMPLEMENTED"
      else "UNKNOWN" := by
  unfold statusName
  split <;> simp_all

/-- The body of an error is written for the report. -/
theorem errorValue_eq_report (status : Nat) (message : String) :
    errorValue status message = report status message := by
  rw [errorValue, statusName_eq, report]

/-- What the **body of an error** says: its report, and nothing else. -/
theorem errorResponse_reports (status : Nat) (message : String) (v : Json.Value) :
    Says (Utf8.encode (errorResponse status message).body.toList) v ↔
      v = report status message := by
  rw [errorResponse, Json.says_render_iff, errorValue_eq_report]

/-- What stands **around the path** in the messages to a request. -/
def surroundings (method : String) : List (String × String) :=
  [(method ++ " ", " is not implemented"), (method ++ " is not supported on ", ""),
    ("", " not found")]

/-- **Every answer is an error** whose message is the path of the request between two texts that
do not depend on it. -/
theorem exists_dispatch_eq (r : Request) :
    ∃ around ∈ surroundings r.method, dispatch r =
      errorResponse (dispatch r).status (around.1 ++ r.path ++ around.2) := by
  rw [dispatch]
  split
  · exact ⟨_, .head _, rfl⟩
  · split
    · refine ⟨_, .tail _ (.head _), ?_⟩
      rw [String.append_empty]
      rfl
    · refine ⟨_, .tail _ (.tail _ (.head _)), ?_⟩
      rw [String.empty_append]
      rfl

/-- **What a body says.** The body of an error is a JSON text that says one value, the report of the
status and the message, whatever the message is. So does the body of the answer to a request, and
the message there is the path of the request, as it is, between two texts of which only the verb
decides. -/
theorem body_reports :
    (∀ (status : Nat) (message : String) (v : Json.Value),
      Says (Utf8.encode (errorResponse status message).body.toList) v ↔
        v = report status message) ∧
    ∀ r : Request, ∃ around ∈ surroundings r.method, ∀ v : Json.Value,
      Says (Utf8.encode (dispatch r).body.toList) v ↔
        v = report (dispatch r).status (around.1 ++ r.path ++ around.2) := by
  refine ⟨errorResponse_reports, fun r => ?_⟩
  obtain ⟨around, haround, hdispatch⟩ := exists_dispatch_eq r
  refine ⟨around, haround, fun v => ?_⟩
  have hreports := errorResponse_reports (dispatch r).status (around.1 ++ r.path ++ around.2) v
  rwa [← hdispatch] at hreports

end Scaffold.Route
