import Scaffold.Text.Quoted

/-!
# What plain scalars mean

A plain scalar may be a null, a truth value or a number instead of a text. A text that reads as
one of these has to be quoted.

## Main definitions

* `isNull` - whether a plain scalar is a spelling of null.
* `isAmbiguous` - whether a text in plain style would not be taken as text.
-/

namespace Scaffold.Yaml

/-- The spellings of null. -/
def nullSpellings : List String := ["null", "Null", "NULL", "~"]

/-- The spellings of the truth values. -/
def booleanSpellings : List String := ["true", "True", "TRUE", "false", "False", "FALSE"]

/-- The spellings of infinity, without a sign. -/
def infinitySpellings : List String := [".inf", ".Inf", ".INF"]

/-- The spellings of what is no number. -/
def nanSpellings : List String := [".nan", ".NaN", ".NAN"]

/-- Whether a text is one of some spellings. -/
def isSpelling (spellings : List String) (cs : List Char) : Bool :=
  spellings.any (·.toList = cs)

/-- Whether a text is a spelling of null. -/
def isNull (cs : List Char) : Bool :=
  isSpelling nullSpellings cs

/-! ### Numbers -/

/-- What follows a sign, if there is one. -/
def unsigned (cs : List Char) : List Char :=
  match cs with
  | '+' :: rest => rest
  | '-' :: rest => rest
  | cs => cs

/-- The value of the digits of a base; `none` if there is none, or another character. -/
def digits? (base : Nat) (cs : List Char) : Option Nat :=
  if cs.isEmpty then none
  else
    cs.foldl (fun value? c =>
      value?.bind fun value =>
        ((Text.hexValue? c).filter (· < base)).map fun d => base * value + d) (some 0)

/-- Whether a text is a zero in front of further digits, which is not a decimal number. -/
def isZeroLed (cs : List Char) : Bool :=
  match unsigned cs with
  | '0' :: c :: rest => (c :: rest).all Char.isDigit
  | _ => false

/-- The value of a whole number without a sign. -/
def magnitude? (cs : List Char) : Option Nat :=
  match cs with
  | '0' :: 'x' :: rest => digits? 16 rest
  | '0' :: 'o' :: rest => digits? 8 rest
  | '0' :: 'b' :: rest => digits? 2 rest
  | cs => if isZeroLed cs then none else digits? 10 cs

/-- Whether a text is a whole number of at most 128 bits. -/
def isInteger (cs : List Char) : Bool :=
  match cs with
  | '-' :: rest => (magnitude? rest).any (· ≤ 1 <<< 127)
  | '+' :: rest => (magnitude? rest).any (· < 1 <<< 128)
  | cs => (magnitude? cs).any (· < 1 <<< 128)

/-- A decimal number: its digits as a whole number, and the power of ten that it counts. -/
structure DecimalNumber where
  /-- The digits. -/
  digits : Nat
  /-- The power of ten. -/
  exponent : Int
  deriving Repr, DecidableEq

/-- The exponent that ends a decimal number; zero if there is none. -/
def exponent? (cs : List Char) : Option Int :=
  match cs with
  | [] => some 0
  | e :: rest =>
    if e = 'e' ∨ e = 'E' then
      (digits? 10 (unsigned rest)).map fun n => if rest.head? = some '-' then -(n : Int) else n
    else
      none

/-- A decimal number without a sign: digits, of which some may stand behind a point, and an
exponent. -/
def decimal? (cs : List Char) : Option DecimalNumber :=
  let whole := cs.takeWhile Char.isDigit
  let rest := cs.dropWhile Char.isDigit
  let (fraction, rest) :=
    match rest with
    | '.' :: more => (more.takeWhile Char.isDigit, more.dropWhile Char.isDigit)
    | rest => ([], rest)
  (digits? 10 (whole ++ fraction)).bind fun digits =>
    (exponent? rest).map fun e => ⟨digits, e - fraction.length⟩

/-- The least number that a floating point number of 64 bits rounds to infinity. -/
def overflow : Nat := (1 <<< 1024) - (1 <<< 970)

/-- Whether a decimal number is below the overflow. Only a number of 309 digits in front of its
point has to be compared. -/
def DecimalNumber.isFinite (d : DecimalNumber) : Bool :=
  let places : Int := (Nat.toDigits 10 d.digits).length + d.exponent
  d.digits = 0 || places ≤ 308
    || (places = 309
      && d.digits * Nat.pow 10 d.exponent.toNat < overflow * Nat.pow 10 (-d.exponent).toNat)

/-- Whether a text is a number with a fraction or an exponent, an infinity or no number. -/
def isFloat (cs : List Char) : Bool :=
  isSpelling infinitySpellings (unsigned cs) || isSpelling nanSpellings cs
    || (!isZeroLed cs && (decimal? (unsigned cs)).any (·.isFinite))

/-- Whether a text in plain style **would not be taken as text**, or might not be. -/
def isAmbiguous (cs : List Char) : Bool :=
  cs.isEmpty || isNull cs || isSpelling booleanSpellings cs || isInteger cs || isZeroLed cs
    || isFloat cs

end Scaffold.Yaml
