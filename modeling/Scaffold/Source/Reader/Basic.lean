import Scaffold.Source.Token

/-!
# Reading tokens

A reader consumes tokens from the front of a list, or fails. The readers here consume one
token, the marks of one operator, or a list whose elements are separated by commas.
-/

namespace Scaffold.Source

/-- A computation that consumes tokens, or fails. -/
abbrev Reader (α : Type) : Type :=
  StateT (List Token) Option α

namespace Reader

/-- Whether what follows satisfies a test. -/
def ahead (test : List Token → Bool) : Reader Bool := do
  return test (← get)

/-- Fails unless a condition holds. -/
def require (condition : Bool) : Reader Unit :=
  if condition then pure () else failure

/-- Reads one token of which a test gives a value. -/
def one (test : Token → Option α) : Reader α := fun ts =>
  match ts with
  | [] => none
  | t :: rest => (test t).map fun a => (a, rest)

/-- Reads an identifier. -/
def identifier : Reader Name :=
  one fun t =>
    match t with
    | .name n => if n.isIdentifier then some n else none
    | _ => none

/-- Reads an identifier or keyword. -/
def anyName : Reader Name :=
  one fun t =>
    match t with
    | .name n => some n
    | _ => none

/-- Reads a lifetime. -/
def lifetime : Reader Name :=
  one fun t =>
    match t with
    | .lifetime n => some n
    | _ => none

/-- Reads a literal. -/
def literal : Reader Literal :=
  one fun t =>
    match t with
    | .literal l => some l
    | _ => none

/-- Reads a given token. -/
def token (t : Token) : Reader Unit :=
  one fun u => if t = u then some () else none

/-- Whether a keyword follows. -/
def startsWord (word : String) (ts : List Token) : Bool :=
  match ts with
  | .name n :: _ => n.isWord word
  | _ => false

/-- Whether one of some keywords follows. -/
def startsAnyOf (words : List String) (ts : List Token) : Bool :=
  words.any (startsWord · ts)

/-- Reads a keyword. -/
def word (w : String) : Reader Unit :=
  one fun t =>
    match t with
    | .name n => if n.isWord w then some () else none
    | _ => none

/-- Reads a keyword if it follows, and says whether it did. -/
def optionalWord (w : String) : Reader Bool := do
  if ← ahead (startsWord w) then
    word w
    return true
  else
    return false

/-- What follows the marks of an operator. All but the last of them must be joint. -/
def afterMarks? (marks : List Char) (ts : List Token) : Option (List Token) :=
  match marks, ts with
  | [], ts => some ts
  | m :: more, .mark c joint :: rest =>
    if m = c ∧ (joint ∨ more = []) then afterMarks? more rest else none
  | _, _ => none

/-- Whether an operator follows. -/
def startsMarks (marks : String) (ts : List Token) : Bool :=
  (afterMarks? marks.toList ts).isSome

/-- Reads an operator. -/
def marks (ms : String) : Reader Unit := fun ts =>
  (afterMarks? ms.toList ts).map fun rest => ((), rest)

/-- Reads an operator if it follows, and says whether it did. -/
def optionalMarks (ms : String) : Reader Bool := do
  if ← ahead (startsMarks ms) then
    marks ms
    return true
  else
    return false

/-- Whether an opening bracket follows. -/
def startsOpening (d : Delimiter) (ts : List Token) : Bool :=
  ts.head? == some (.opening d)

/-- Whether a bracket closes here. -/
def startsClosing (ts : List Token) : Bool :=
  match ts with
  | .closing _ :: _ => true
  | _ => false

/-- Reads what brackets enclose. -/
def within (d : Delimiter) (r : Reader α) : Reader α := do
  token (.opening d)
  let a ← r
  token (.closing d)
  return a

/-- Reads at most `n` elements, until a test says that the list ends. -/
def elements (n : Nat) (atEnd : List Token → Bool) (r : Reader α) : Reader (List α) :=
  match n with
  | 0 => failure
  | n + 1 => do
    if ← ahead atEnd then
      return []
    let a ← r
    if ← ahead atEnd then
      return [a]
    marks ","
    return a :: (← elements n atEnd r)

/-- Reads elements separated by commas, of which one may follow the last element. -/
def commaList (atEnd : List Token → Bool) (r : Reader α) : Reader (List α) := do
  elements ((← get).length + 1) atEnd r

/-- Reads elements separated by commas and enclosed in brackets. -/
def listWithin (d : Delimiter) (r : Reader α) : Reader (List α) :=
  within d (commaList startsClosing r)

/-- Reads at most `n` times, as long as a test holds. -/
def manyWithin (n : Nat) (goesOn : List Token → Bool) (r : Reader α) : Reader (List α) :=
  match n with
  | 0 => return []
  | n + 1 => do
    if ← ahead goesOn then
      return (← r) :: (← manyWithin n goesOn r)
    else
      return []

/-- Reads as long as a test holds. -/
def many (goesOn : List Token → Bool) (r : Reader α) : Reader (List α) := do
  manyWithin (← get).length goesOn r

end Reader

end Scaffold.Source
