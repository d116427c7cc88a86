import Scaffold.Json.Token

/-!
# Skipping a value

A value that nobody reads is checked for its syntax alone. The check is an automaton on tokens
with a stack of the lists and objects that are open, so that values may be nested to any depth.
Numbers of any size pass, and strings whose code units are not paired or whose bytes are not
UTF-8; faulty tokens do not.
-/

namespace Scaffold.Json

/-- What encloses a value that is being skipped. -/
inductive Frame where
  | list
  | object
  deriving Repr, DecidableEq

/-- Where the automaton stands. -/
inductive SkipMode where
  /-- Before a value. -/
  | value
  /-- Behind the bracket or brace that opened the innermost frame. -/
  | opened
  /-- Behind a value or member of the innermost frame. -/
  | after
  /-- Behind a comma in an object. -/
  | key
  /-- Behind the key of a member. -/
  | colon
  deriving Repr, DecidableEq

/-- The frames that are open, innermost first, and the place within the first. -/
structure SkipState where
  /-- The open frames. -/
  frames : List Frame
  /-- The place in the innermost. -/
  mode : SkipMode
  deriving Repr, DecidableEq

namespace SkipState

/-- The state before a value that nothing encloses. -/
def initial : SkipState :=
  ⟨[], .value⟩

/-- The state after a complete value; `none` if nothing encloses it. -/
def completed (frames : List Frame) : Option SkipState :=
  match frames with
  | [] => none
  | frames => some ⟨frames, .after⟩

/-- The failure of a faulty token. -/
def faultOf (t : Token) : Failure :=
  match t with
  | .string _ (some f) => f.failure
  | .badWord true => .endInValue
  | .badWord false => .expectedWord
  | .badNumber _ => .invalidNumber
  | _ => .expectedValue

/-- Reads the first token of a value. -/
def onValue (frames : List Frame) (t : Token) : Except Failure (Option SkipState) :=
  match t with
  | .null | .boolean _ | .number _ | .string _ none => .ok (completed frames)
  | .openList => .ok (some ⟨.list :: frames, .opened⟩)
  | .openObject => .ok (some ⟨.object :: frames, .opened⟩)
  | t => .error (faultOf t)

/-- Reads the key of a member. -/
def onKey (frames : List Frame) (t : Token) : Except Failure (Option SkipState) :=
  match t with
  | .string _ none => .ok (some ⟨frames, .colon⟩)
  | .string _ (some f) => .error f.failure
  | _ => .error .keyNotString

/-- Reads one token. The result is `none` when the value is complete. -/
def step (s : SkipState) (t : Token) : Except Failure (Option SkipState) :=
  match s.mode, s.frames with
  | .value, frames => onValue frames t
  | .opened, .list :: outer =>
    if t = .closeList then .ok (completed outer) else onValue (.list :: outer) t
  | .opened, .object :: outer =>
    if t = .closeObject then .ok (completed outer) else onKey (.object :: outer) t
  | .after, .list :: outer =>
    if t = .closeList then .ok (completed outer)
    else if t = .comma then .ok (some ⟨.list :: outer, .value⟩)
    else .error .expectedCommaOrBracket
  | .after, .object :: outer =>
    if t = .closeObject then .ok (completed outer)
    else if t = .comma then .ok (some ⟨.object :: outer, .key⟩)
    else .error .expectedCommaOrBrace
  | .key, frames => onKey frames t
  | .colon, frames =>
    if t = .colon then .ok (some ⟨frames, .value⟩) else .error .expectedColon
  | _, [] => .ok none

/-- The failure of a text that ends before the value does. -/
def atEnd (s : SkipState) : Failure :=
  match s.mode, s.frames with
  | .value, _ => .endInValue
  | .opened, .list :: _ => .endInList
  | .after, .list :: _ => .endInList
  | _, _ => .endInObject

end SkipState

/-- Runs the automaton to the end of the value and gives the tokens behind it. -/
def skipFrom (s : SkipState) (ts : List Token) : Except Failure (List Token) :=
  match ts with
  | [] => .error s.atEnd
  | t :: rest =>
    match s.step t with
    | .error f => .error f
    | .ok none => .ok rest
    | .ok (some s) => skipFrom s rest

/-- The tokens behind the value with which the tokens begin. -/
def skip (ts : List Token) : Except Failure (List Token) :=
  skipFrom .initial ts

end Scaffold.Json
