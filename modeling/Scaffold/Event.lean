/-!
# Events of a run

What a run reports while it works, apart from its result. Functions that report come with a
companion that lists the events of the same call, so that results can be stated and used
without them.
-/

namespace Scaffold

/-- How much an event matters. -/
inductive Level where
  | debug
  | info
  deriving Repr, DecidableEq

/-- The part of the library that reports an event. -/
inductive Topic where
  | discovery
  | handlers
  | emitter
  | generate
  | router
  | backends
  deriving Repr, DecidableEq

/-- Something that happened during a run. -/
inductive Event where
  /-- A document was decoded. -/
  | decoded (name version : String) (resources : Nat)
  /-- The bundled document was loaded. -/
  | loaded (title version : String)
  /-- A method of a document was described. -/
  | described (httpMethod path identifier : String)
  /-- All methods of a document were described. -/
  | enumerated (handlers resources : Nat)
  /-- The source for some handlers is about to be rendered. -/
  | rendering (handlers : Nat)
  /-- A file was replaced. -/
  | replaced (bytes : Nat) (path : String)
  /-- The generated source was written. -/
  | wrote (path : String)
  /-- The generated source was found in place. -/
  | upToDate (path : String)
  /-- A request was routed to an entry of the table. -/
  | routed (method path template : String)
  /-- A request reached a handler that has nothing to serve it with. -/
  | unserved (method path handler : String)
  deriving Repr, DecidableEq

namespace Event

/-- How much an event matters. -/
def level (e : Event) : Level :=
  match e with
  | .loaded .. | .enumerated .. | .wrote .. | .upToDate .. => .info
  | _ => .debug

/-- The part of the library that reports an event. -/
def topic (e : Event) : Topic :=
  match e with
  | .decoded .. => .discovery
  | .described .. => .handlers
  | .rendering .. | .replaced .. => .emitter
  | .loaded .. | .enumerated .. | .wrote .. | .upToDate .. => .generate
  | .routed .. => .router
  | .unserved .. => .backends

/-- The wording of an event. -/
def message (e : Event) : String :=
  match e with
  | .decoded name version resources =>
    "Decoded discovery document '" ++ name ++ "' " ++ version ++ " with "
      ++ toString resources ++ " resources"
  | .loaded title version => "Loaded bundled discovery document '" ++ title ++ "' " ++ version
  | .described httpMethod path identifier => httpMethod ++ " " ++ path ++ " -> " ++ identifier
  | .enumerated handlers resources =>
    "Enumerated " ++ toString handlers ++ " handlers from " ++ toString resources ++ " resources"
  | .rendering handlers =>
    "Rendering handler_gen.rs.tera with " ++ toString handlers ++ " handlers"
  | .replaced bytes path => "Wrote " ++ toString bytes ++ " bytes to " ++ path
  | .wrote path => "Wrote " ++ path
  | .upToDate path => path ++ " is up to date"
  | .routed method path template => method ++ " " ++ path ++ " -> " ++ template
  | .unserved method path handler =>
    method ++ " " ++ path ++ " has no backend (" ++ handler ++ ")"

end Event

end Scaffold
