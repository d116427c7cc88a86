import Scaffold.Text.Split
import Scaffold.Text.Utf8

/-!
# Path templates

A template is a path whose segments are literal text or a placeholder in braces between two
literal texts. A path matches a template when both have as many segments and each segment of
the path matches that of the template; slashes in front of either do not count. The score of a
match is the number of bytes of literal text in it, so that of several templates the one that
says most about the path scores highest.

## Main definitions

* `matchSegment` - the score of a segment against a pattern.
* `matchTemplate` - the score of a path against a template.
* `bestMatch` - the candidate of highest score, the last of equal ones.
-/

namespace Scaffold.Route

open Text (Utf8.size)

/-- Text between slashes. -/
def segments (cs : List Char) : List (List Char) :=
  Text.split '/' cs

/-- Text without the slashes in front of it. -/
def unrooted (cs : List Char) : List Char :=
  cs.dropWhile (· = '/')

/-- The score of a segment against a pattern; `none` if it does not match. A pattern with both
braces is what stands before its first opening one, a value that is not empty, and what stands
behind its first closing one. Any other pattern matches itself. -/
def matchSegment (pattern segment : List Char) : Option Nat :=
  if '{' ∈ pattern ∧ '}' ∈ pattern then do
    let before := pattern.takeWhile (· ≠ '{')
    let behind := (pattern.dropWhile (· ≠ '}')).drop 1
    let rest ← before.isPrefixOf? segment
    let value ← behind.isSuffixOf? rest
    if value.isEmpty then none else some (Utf8.size before + Utf8.size behind)
  else
    if pattern = segment then some (Utf8.size pattern) else none

/-- The summed scores of segments against patterns, if there are as many and all match. -/
def matchSegments (patterns parts : List (List Char)) : Option Nat :=
  match patterns, parts with
  | [], [] => some 0
  | pattern :: patterns, part :: parts => do
    let score ← matchSegment pattern part
    let rest ← matchSegments patterns parts
    some (score + rest)
  | _, _ => none

/-- The score of a path against a template; `none` if it does not match. -/
def matchTemplate (template path : String) : Option Nat :=
  matchSegments (segments (unrooted template.toList)) (segments (unrooted path.toList))

/-- The better of two scored candidates, the later one if they are equal. -/
def better (best : Option (Nat × α)) (score : Nat) (candidate : α) : Nat × α :=
  match best with
  | some (most, kept) => if most ≤ score then (score, candidate) else (most, kept)
  | none => (score, candidate)

/-- The candidate whose template matches a path with the **highest score**, the last of equal
ones. -/
def bestMatch (template : α → String) (candidates : List α) (path : String) : Option α :=
  (candidates.foldl (fun best candidate =>
    match matchTemplate (template candidate) path with
    | some score => some (better best score candidate)
    | none => best) none).map (·.2)

end Scaffold.Route
