/-!
# Shortest decimals

The decimal of fewest digits that reads back as a given binary floating-point number, and of
those the one nearest to it. A finite double is `m * 2 ^ q`. The reals that round to it form
an interval, its ends included exactly when `m` is even. For one digit after the other the two
neighbours of the number on the decimal grid are tested against that interval in exact
arithmetic, and the first grid with a hit gives the digits.

## Main definitions

* `Binary.ofFloat?` - a finite double as mantissa and exponent.
* `Binary.shortest` - its shortest decimal.
* `Shortest.render` - the text of a decimal, positional or with an exponent.
-/

namespace Scaffold.Decimal

/-- A positive binary number `mantissa * 2 ^ exponent`, with the width of the interval below
it halved where the mantissa is the least of its exponent. -/
structure Binary where
  /-- The mantissa. -/
  mantissa : Nat
  /-- The exponent of two. -/
  exponent : Int
  /-- Whether the next smaller number is only half as far away as the next larger one. -/
  narrowBelow : Bool
  deriving Repr, DecidableEq

/-- A decimal `digits * 10 ^ exponent`. -/
structure Shortest where
  /-- The digits, as a number without trailing zeros. -/
  digits : Nat
  /-- The exponent of ten. -/
  exponent : Int
  deriving Repr, DecidableEq

/-- The bits of a finite, non-zero double as a binary number. -/
def Binary.ofFloat? (x : Float) : Option Binary :=
  let bits : Nat := x.toBits.toNat
  let field : Nat := (bits >>> 52) % 0x800
  let fraction : Nat := bits % 0x10000000000000
  if field = 0x7FF then
    none
  else if field = 0 then
    if fraction = 0 then none else some ⟨fraction, -1074, false⟩
  else
    some ⟨0x10000000000000 + fraction, (field : Int) - 1075, fraction = 0 && 1 < field⟩

namespace Binary

/-- The number in quarters of its last place: the low end of the interval of reals that round
to it, the number itself and the high end, all times `2 ^ (exponent - 2)`. -/
def interval (b : Binary) : Nat × Nat × Nat :=
  (4 * b.mantissa - (if b.narrowBelow then 1 else 2), 4 * b.mantissa, 4 * b.mantissa + 2)

/-- `n * 2 ^ e2 / 10 ^ e10` as a fraction of natural numbers. -/
def ratio (n : Nat) (e2 e10 : Int) : Nat × Nat :=
  ((n <<< e2.toNat) * Nat.pow 10 (-e10).toNat, (1 <<< (-e2).toNat) * Nat.pow 10 e10.toNat)

/-- Whether `d * 10 ^ e` rounds to the number. -/
def contains (b : Binary) (d : Nat) (e : Int) : Bool :=
  let (low, _, high) := b.interval
  let (ln, ld) := ratio low (b.exponent - 2) e
  let (hn, hd) := ratio high (b.exponent - 2) e
  if b.mantissa % 2 = 0 then
    ln ≤ d * ld && d * hd ≤ hn
  else
    ln < d * ld && d * hd < hn

/-- The neighbour of the number on the grid of `10 ^ e` that rounds to it, if one does: of two
the nearer, and of two equally near the even one. -/
def onGrid? (b : Binary) (e : Int) : Option Nat :=
  let (n, d) := ratio b.interval.2.1 (b.exponent - 2) e
  let below := n / d
  let above := below + 1
  match b.contains below e && 0 < below, b.contains above e with
  | true, true =>
    let twice := 2 * (n - below * d)
    some (if twice < d then below else if d < twice then above
      else if below % 2 = 0 then below else above)
  | true, false => some below
  | false, true => some above
  | false, false => none

/-- The exponent of ten of the number's first digit, at most one too large. -/
def leading (b : Binary) : Int :=
  ((b.mantissa.log2 : Int) + b.exponent) * 30103 / 100000 + 1

/-- Tries the grids from coarse to fine. -/
def search (b : Binary) (steps : Nat) (e : Int) : Shortest :=
  match steps with
  | 0 => ⟨0, 0⟩
  | steps + 1 =>
    match b.onGrid? e with
    | some d => ⟨d, e⟩
    | none => search b steps (e - 1)

/-- The **shortest decimal** that reads back as the number. -/
def shortest (b : Binary) : Shortest :=
  search b 24 b.leading

end Binary

namespace Shortest

/-- The text of a decimal: positional while the point stands at most four zeros before the
digits or sixteen places behind their start, and with an exponent beyond that. -/
def render (s : Shortest) : String :=
  let ds := (toString s.digits).toList
  let point := (ds.length : Int) + s.exponent
  let text : List Char :=
    if 0 ≤ s.exponent ∧ point ≤ 16 then
      ds ++ List.replicate s.exponent.toNat '0' ++ ['.', '0']
    else if 0 < point ∧ point ≤ 16 then
      ds.take point.toNat ++ '.' :: ds.drop point.toNat
    else if -5 < point ∧ point ≤ 0 then
      '0' :: '.' :: List.replicate (-point).toNat '0' ++ ds
    else
      let power := point - 1
      let sign := if power < 0 then '-' else '+'
      let fraction := if ds.length ≤ 1 then [] else '.' :: ds.drop 1
      ds.take 1 ++ fraction ++ 'e' :: sign :: (toString power.natAbs).toList
  String.ofList text

end Shortest

/-- The shortest text of a finite double that reads back as it. -/
def text (x : Float) : String :=
  let sign := if x.toBits.toNat < 0x8000000000000000 then "" else "-"
  sign ++ ((Binary.ofFloat? x).elim "0.0" fun b => b.shortest.render)

end Scaffold.Decimal
