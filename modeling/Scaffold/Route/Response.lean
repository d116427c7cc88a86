import Scaffold.Json.Value

/-!
# Responses

Every answer is an error in a body of JSON: an object with one member `error`, which holds the
status as a number, a message and the name of the status.
-/

namespace Scaffold.Route

/-- A response. -/
structure Response where
  /-- The status. -/
  status : Nat
  /-- Header names and values. -/
  headers : List (String × String)
  /-- The body. -/
  body : String
  deriving Repr, DecidableEq

/-- The name of a status in a body. -/
def statusName (status : Nat) : String :=
  match status with
  | 404 => "NOT_FOUND"
  | 405 => "METHOD_NOT_ALLOWED"
  | 501 => "UNIMPLEMENTED"
  | _ => "UNKNOWN"

/-- The body of an error as a JSON value. -/
def errorValue (status : Nat) (message : String) : Json.Value :=
  .object [("error", .object [
    ("code", .number status), ("message", .text message), ("status", .text (statusName status))])]

/-- The response that reports an error. -/
def errorResponse (status : Nat) (message : String) : Response where
  status := status
  headers := [("content-type", "application/json")]
  body := (errorValue status message).render

/-- Whether a number is a status. -/
def isStatus (n : Nat) : Bool :=
  100 ≤ n && n ≤ 999

end Scaffold.Route
