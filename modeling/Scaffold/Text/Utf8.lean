/-!
# UTF-8

Bytes and the characters that they encode. The decoder reads one byte at a time and keeps
the bounds of the next continuation byte, so that an overlong form, a surrogate or a code
point beyond the last one is refused at the first byte that shows it. `decode` is strict.
`decodeLossy` puts the replacement character for each longest run of bytes that could still
have begun a character.

## Main definitions

* `encode` - the bytes of a text.
* `decode` - the text of well-formed bytes, and `none` otherwise.
* `decodeLossy` - the text of any bytes.
-/

namespace Scaffold.Text.Utf8

/-- The bytes of a text. -/
def encode (cs : List Char) : List UInt8 :=
  cs.flatMap String.utf8EncodeChar

/-- How many bytes a text takes. -/
def size (cs : List Char) : Nat :=
  match cs with
  | [] => 0
  | c :: rest => c.utf8Size + size rest

/-- Where the decoder stands: between characters, or inside one with the number of bytes to
come, the bounds of the next one and the value of the bits so far. -/
inductive State where
  | start
  | inside (more : Nat) (low high : UInt8) (value : Nat)
  deriving Repr, DecidableEq

/-- What the first byte of a character says. -/
inductive Lead where
  /-- The byte is a character of its own. -/
  | char (c : Char)
  /-- The byte opens a longer form. -/
  | opens (state : State)
  /-- No character starts with the byte. -/
  | invalid
  deriving Repr, DecidableEq

/-- Reads the first byte of a character. -/
def lead (b : UInt8) : Lead :=
  if b < 0x80 then .char (Char.ofNat b.toNat)
  else if b < 0xC2 then .invalid
  else if b < 0xE0 then .opens (.inside 1 0x80 0xBF (b.toNat - 0xC0))
  else if b = 0xE0 then .opens (.inside 2 0xA0 0xBF 0)
  else if b = 0xED then .opens (.inside 2 0x80 0x9F 0xD)
  else if b < 0xF0 then .opens (.inside 2 0x80 0xBF (b.toNat - 0xE0))
  else if b = 0xF0 then .opens (.inside 3 0x90 0xBF 0)
  else if b < 0xF4 then .opens (.inside 3 0x80 0xBF (b.toNat - 0xF0))
  else if b = 0xF4 then .opens (.inside 3 0x80 0x8F 4)
  else .invalid

/-- The value of the bits after one more continuation byte. -/
def extend (value : Nat) (b : UInt8) : Nat :=
  64 * value + (b.toNat - 0x80)

/-- Decodes from a given state. -/
def decodeFrom (state : State) (bytes : List UInt8) : Option (List Char) :=
  match state, bytes with
  | .start, [] => some []
  | .inside .., [] => none
  | .start, b :: rest =>
    match lead b with
    | .char c => (decodeFrom .start rest).map (c :: ·)
    | .opens state => decodeFrom state rest
    | .invalid => none
  | .inside more low high value, b :: rest =>
    if low ≤ b ∧ b ≤ high then
      if more ≤ 1 then
        (decodeFrom .start rest).map (Char.ofNat (extend value b) :: ·)
      else
        decodeFrom (.inside (more - 1) 0x80 0xBF (extend value b)) rest
    else
      none

/-- The text that the bytes encode, if they are well formed. -/
def decode (bytes : List UInt8) : Option (List Char) :=
  decodeFrom .start bytes

/-- The character that stands for bytes that encode none. -/
def replacement : Char := '\uFFFD'

/-- Decodes from a given state, replacing what cannot be decoded. -/
def decodeLossyFrom (state : State) (bytes : List UInt8) : List Char :=
  match state, bytes with
  | .start, [] => []
  | .inside .., [] => [replacement]
  | .start, b :: rest =>
    match lead b with
    | .char c => c :: decodeLossyFrom .start rest
    | .opens state => decodeLossyFrom state rest
    | .invalid => replacement :: decodeLossyFrom .start rest
  | .inside more low high value, b :: rest =>
    if low ≤ b ∧ b ≤ high then
      if more ≤ 1 then
        Char.ofNat (extend value b) :: decodeLossyFrom .start rest
      else
        decodeLossyFrom (.inside (more - 1) 0x80 0xBF (extend value b)) rest
    else
      match lead b with
      | .char c => replacement :: c :: decodeLossyFrom .start rest
      | .opens state => replacement :: decodeLossyFrom state rest
      | .invalid => replacement :: replacement :: decodeLossyFrom .start rest

/-- The text that the bytes encode, with `replacement` for what is not well formed. -/
def decodeLossy (bytes : List UInt8) : List Char :=
  decodeLossyFrom .start bytes

end Scaffold.Text.Utf8
