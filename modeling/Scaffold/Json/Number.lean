import Scaffold.Decimal.Shortest
import Scaffold.Json.Failure

/-!
# JSON numbers

A numeral as it is written, and the number that it is read as: a natural number or a negative
integer of sixty-four bits where it has neither fraction nor exponent and fits, and a double
otherwise. A double is scaled from its first digits, as many as fit sixty-four bits, by one
power of ten at a time; the last place may therefore differ from the nearest double.

## Main definitions

* `Numeral` - a numeral by its parts.
* `Numeral.found` - the number it is read as, or why it is out of range.
-/

namespace Scaffold.Json

/-- A numeral by its parts. Digits are numbers below ten. -/
structure Numeral where
  /-- Whether a minus sign stands in front. -/
  negative : Bool
  /-- The digits before the point. -/
  whole : List Nat
  /-- The digits after the point, if there is one. -/
  fraction : Option (List Nat)
  /-- The sign and digits of the exponent, if there is one. -/
  exponent : Option (Bool × List Nat)
  deriving Repr, DecidableEq

namespace Numeral

/-- The largest number of sixty-four bits. -/
def wordMax : Nat := 0xFFFFFFFFFFFFFFFF

/-- Digits appended to a significand while it fits sixty-four bits: the significand, and the
digits that no longer fit. -/
def absorb (significand : Nat) (digits : List Nat) : Nat × List Nat :=
  match digits with
  | [] => (significand, [])
  | d :: rest =>
    if 10 * significand + d ≤ wordMax then absorb (10 * significand + d) rest
    else (significand, d :: rest)

/-- Divides by a power of ten, three hundred and eight places at a time. -/
def scaleDown (steps : Nat) (x : Float) (places : Nat) : Float :=
  match steps with
  | 0 => x
  | steps + 1 =>
    if places ≤ 308 then x / Float.ofScientific 1 false places
    else if x == 0 then x
    else scaleDown steps (x / Float.ofScientific 1 false 308) (places - 308)

/-- The double for a significand and a power of ten, unless it is too large. -/
def scale (significand : Nat) (power : Int) : Except Failure Float :=
  let x := Float.ofNat significand
  if power < 0 then
    .ok (scaleDown (power.natAbs / 308 + 1) x power.natAbs)
  else if power.toNat ≤ 308 then
    let y := x * Float.ofScientific 1 false power.toNat
    if y.isInf then .error .numberOutOfRange else .ok y
  else if x == 0 then
    .ok x
  else
    .error .numberOutOfRange

/-- The largest exponent that is read digit by digit. -/
def exponentMax : Nat := 0x7FFFFFFF

/-- The double that a numeral is read as, without its sign. -/
def magnitude (n : Numeral) : Except Failure Float :=
  let (significand, beyond) := absorb 0 n.whole
  let (significand, kept) :=
    match n.fraction with
    | none => (significand, 0)
    | some ds =>
      let (s, rest) := absorb significand ds
      (s, ds.length - rest.length)
  let power : Int := (beyond.length : Int) - kept
  match n.exponent with
  | none => scale significand power
  | some (negative, ds) =>
    let e : Nat := ds.foldl (fun e d => 10 * e + d) 0
    if exponentMax < e then
      if significand ≠ 0 ∧ !negative then .error .numberOutOfRange else .ok 0
    else
      scale significand (if negative then power - e else power + e)

/-- The number that a numeral is read as, as an error about its type words it. -/
def found (n : Numeral) : Except Failure Found :=
  let (value, beyond) := absorb 0 n.whole
  if beyond.isEmpty ∧ n.fraction.isNone ∧ n.exponent.isNone
      ∧ (!n.negative ∨ (0 < value ∧ value ≤ 0x8000000000000000)) then
    .ok (.integer (if n.negative then -value else value))
  else
    n.magnitude.map fun x => .float (Decimal.text (if n.negative then -x else x))

end Numeral

end Scaffold.Json
