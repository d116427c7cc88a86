import Scaffold.BigQuery.Routes
import Scaffold.Event
import Scaffold.Route.Request
import Scaffold.Route.Response
import Scaffold.Route.Template

/-!
# Dispatching requests

A request is routed by its method and its path to an entry of the table, and the entry's
handler serves it. No handler has anything to serve a request with yet, and says so. A request
that no entry matches is answered according to whether an entry of another method would.
-/

namespace Scaffold.Route

open BigQuery (Route routes)

/-- The entry for a method and a path. -/
def route? (method path : String) : Option Route :=
  bestMatch Route.template (routes.filter (·.httpMethod = method)) path

/-- The place in the table of the entry for a method and a path. -/
def routeIndex? (method path : String) : Option Nat :=
  (bestMatch (fun r : Route × Nat => r.1.template)
    (routes.zipIdx.filter (·.1.httpMethod = method)) path).map (·.2)

/-- The answer of a handler. -/
def serve (_handler : String) (r : Request) : Response :=
  errorResponse 501 (r.method ++ " " ++ r.path ++ " is not implemented")

/-- What `serve` reports. -/
def serveEvents (handler : String) (r : Request) : List Event :=
  [.unserved r.method r.path handler]

/-- The **answer to a request**. -/
def dispatch (r : Request) : Response :=
  match route? r.method r.path with
  | some entry => serve entry.handler r
  | none =>
    if (bestMatch Route.template routes r.path).isSome then
      errorResponse 405 (r.method ++ " is not supported on " ++ r.path)
    else
      errorResponse 404 (r.path ++ " not found")

/-- The answer to a message; `none` if it is no request. -/
def answer? (m : Message) : Option Response :=
  m.request?.map dispatch

/-- What `dispatch` reports. -/
def dispatchEvents (r : Request) : List Event :=
  match route? r.method r.path with
  | some entry => .routed r.method r.path entry.template :: serveEvents entry.handler r
  | none => []

end Scaffold.Route
