import Scaffold.Text.Utf8

/-!
# The decoder accepts UTF-8 and nothing else

The strict decoder keeps bounds for the next continuation byte instead of checking the value of
a character once it is complete. Both come to the same: the bounds after a first byte admit the
continuation bytes whose bits can still complete a character in its shortest form.

## Main results

* `decodeFrom_encodeChar` - the bytes of a character are read as that character.
* `decodeFrom_start_inv` - what is read begins with the bytes of a character.
* `decode_eq_some_iff` - the decoder gives a text for its bytes and for no others.
* `length_encode` - how many bytes a text takes.
-/

namespace Scaffold.Text.Utf8

/-- A valid code point is the number of its character. -/
theorem toNat_ofNat {n : Nat} (h : n.isValidChar) : (Char.ofNat n).toNat = n := by
  rw [Char.ofNat, dif_pos h]
  rfl

/-- A character's code point is at most the last one. -/
theorem toNat_lt_max (c : Char) : c.toNat < 0x110000 := by
  have h : c.toNat.isValidChar := c.valid
  omega

/-- The number of a byte fits eight bits. -/
theorem toNat_lt (b : UInt8) : b.toNat < 256 :=
  UInt8.toNat_lt_size b

/-- The number of a byte that is given by its number. -/
theorem byte_toNat {n : Nat} (h : n < 256) : (UInt8.ofNat n).toNat = n :=
  UInt8.toNat_ofNat_of_lt' h

/-! ### The first byte of a character -/

/-- What the first byte says, by its number. -/
theorem lead_eq (b : UInt8) : lead b =
    if b.toNat < 0x80 then .char (Char.ofNat b.toNat)
    else if b.toNat < 0xC2 then .invalid
    else if b.toNat < 0xE0 then .opens (.inside 1 0x80 0xBF (b.toNat - 0xC0))
    else if b.toNat = 0xE0 then .opens (.inside 2 0xA0 0xBF 0)
    else if b.toNat = 0xED then .opens (.inside 2 0x80 0x9F 0xD)
    else if b.toNat < 0xF0 then .opens (.inside 2 0x80 0xBF (b.toNat - 0xE0))
    else if b.toNat = 0xF0 then .opens (.inside 3 0x90 0xBF 0)
    else if b.toNat < 0xF4 then .opens (.inside 3 0x80 0xBF (b.toNat - 0xF0))
    else if b.toNat = 0xF4 then .opens (.inside 3 0x80 0x8F 4)
    else .invalid := by
  simp only [lead, UInt8.lt_iff_toNat_lt, ← UInt8.toNat_inj, UInt8.reduceToNat]

/-- A byte below `80` is a character. -/
theorem lead_one {b : UInt8} (h : b.toNat < 0x80) : lead b = .char (Char.ofNat b.toNat) := by
  rw [lead_eq, if_pos h]

/-- A byte from `C2` to `DF` opens a form of two bytes. -/
theorem lead_two {b : UInt8} (h₁ : 0xC2 ≤ b.toNat) (h₂ : b.toNat < 0xE0) :
    lead b = .opens (.inside 1 0x80 0xBF (b.toNat - 0xC0)) := by
  rw [lead_eq, if_neg (by omega), if_neg (by omega), if_pos h₂]

/-- A byte from `E0` to `EF` opens a form of three bytes. Its second byte is bounded so that
the form is not too long for its character, and the character no surrogate. -/
theorem lead_three {b : UInt8} (h₁ : 0xE0 ≤ b.toNat) (h₂ : b.toNat < 0xF0) :
    ∃ low high, lead b = .opens (.inside 2 low high (b.toNat - 0xE0)) ∧
      ∀ x : UInt8, (low ≤ x ∧ x ≤ high) ↔ 0x80 ≤ x.toNat ∧ x.toNat ≤ 0xBF ∧
        0x20 ≤ extend (b.toNat - 0xE0) x ∧
        ¬ (0x360 ≤ extend (b.toNat - 0xE0) x ∧ extend (b.toNat - 0xE0) x < 0x380) := by
  have hlead := lead_eq b
  rw [if_neg (by omega), if_neg (by omega), if_neg (by omega)] at hlead
  by_cases he0 : b.toNat = 0xE0
  · have hbits : b.toNat - 0xE0 = 0 := by omega
    rw [if_pos he0] at hlead
    refine ⟨0xA0, 0xBF, hlead.trans (by rw [hbits]), fun x => ?_⟩
    unfold extend
    rw [hbits]
    simp only [UInt8.le_iff_toNat_le, UInt8.reduceToNat]
    omega
  · rw [if_neg he0] at hlead
    by_cases hed : b.toNat = 0xED
    · have hbits : b.toNat - 0xE0 = 0xD := by omega
      rw [if_pos hed] at hlead
      refine ⟨0x80, 0x9F, hlead.trans (by rw [hbits]), fun x => ?_⟩
      unfold extend
      rw [hbits]
      simp only [UInt8.le_iff_toNat_le, UInt8.reduceToNat]
      omega
    · rw [if_neg hed, if_pos h₂] at hlead
      refine ⟨0x80, 0xBF, hlead, fun x => ?_⟩
      unfold extend
      simp only [UInt8.le_iff_toNat_le, UInt8.reduceToNat]
      omega

/-- A byte from `F0` to `F4` opens a form of four bytes. Its second byte is bounded so that the
form is not too long for its character, and the character not beyond the last. -/
theorem lead_four {b : UInt8} (h₁ : 0xF0 ≤ b.toNat) (h₂ : b.toNat ≤ 0xF4) :
    ∃ low high, lead b = .opens (.inside 3 low high (b.toNat - 0xF0)) ∧
      ∀ x : UInt8, (low ≤ x ∧ x ≤ high) ↔ 0x80 ≤ x.toNat ∧ x.toNat ≤ 0xBF ∧
        0x10 ≤ extend (b.toNat - 0xF0) x ∧ extend (b.toNat - 0xF0) x < 0x110 := by
  have hlead := lead_eq b
  rw [if_neg (by omega), if_neg (by omega), if_neg (by omega), if_neg (by omega),
    if_neg (by omega), if_neg (by omega)] at hlead
  by_cases hf0 : b.toNat = 0xF0
  · have hbits : b.toNat - 0xF0 = 0 := by omega
    rw [if_pos hf0] at hlead
    refine ⟨0x90, 0xBF, hlead.trans (by rw [hbits]), fun x => ?_⟩
    unfold extend
    rw [hbits]
    simp only [UInt8.le_iff_toNat_le, UInt8.reduceToNat]
    omega
  · rw [if_neg hf0] at hlead
    by_cases hf4 : b.toNat = 0xF4
    · have hbits : b.toNat - 0xF0 = 4 := by omega
      rw [if_neg (by omega), if_pos hf4] at hlead
      refine ⟨0x80, 0x8F, hlead.trans (by rw [hbits]), fun x => ?_⟩
      unfold extend
      rw [hbits]
      simp only [UInt8.le_iff_toNat_le, UInt8.reduceToNat]
      omega
    · rw [if_pos (by omega)] at hlead
      refine ⟨0x80, 0xBF, hlead, fun x => ?_⟩
      unfold extend
      simp only [UInt8.le_iff_toNat_le, UInt8.reduceToNat]
      omega

/-- No character begins with a byte that is none of these. -/
theorem lead_invalid {b : UInt8} (h : 0x80 ≤ b.toNat ∧ b.toNat < 0xC2 ∨ 0xF4 < b.toNat) :
    lead b = .invalid := by
  rw [lead_eq, if_neg (by omega)]
  by_cases hC2 : b.toNat < 0xC2
  · rw [if_pos hC2]
  · rw [if_neg hC2, if_neg (by omega), if_neg (by omega), if_neg (by omega), if_neg (by omega),
      if_neg (by omega), if_neg (by omega), if_neg (by omega)]

/-! ### The bytes of a character -/

/-- A code point below `80` takes one byte. -/
theorem encodeChar_one {c : Char} (h : c.toNat < 0x80) :
    String.utf8EncodeChar c = [UInt8.ofNat c.toNat] := by
  have hv : c.val.toNat ≤ 0x7F := Nat.le_of_lt_succ h
  rw [String.utf8EncodeChar, if_pos hv]
  rfl

/-- A code point of eleven bits takes two bytes. -/
theorem encodeChar_two {c : Char} (h₁ : 0x80 ≤ c.toNat) (h₂ : c.toNat < 0x800) :
    String.utf8EncodeChar c
      = [UInt8.ofNat (c.toNat / 64 + 0xC0), UInt8.ofNat (c.toNat % 64 + 0x80)] := by
  have hv : c.val.toNat = c.toNat := rfl
  rw [String.utf8EncodeChar, hv, if_neg (by omega), if_pos (by omega),
    show c.toNat / 64 % 0x20 = c.toNat / 64 by omega]

/-- A code point of sixteen bits takes three bytes. -/
theorem encodeChar_three {c : Char} (h₁ : 0x800 ≤ c.toNat) (h₂ : c.toNat < 0x10000) :
    String.utf8EncodeChar c
      = [UInt8.ofNat (c.toNat / 4096 + 0xE0), UInt8.ofNat (c.toNat / 64 % 64 + 0x80),
          UInt8.ofNat (c.toNat % 64 + 0x80)] := by
  have hv : c.val.toNat = c.toNat := rfl
  rw [String.utf8EncodeChar, hv, if_neg (by omega), if_neg (by omega), if_pos (by omega),
    show c.toNat / 4096 % 0x10 = c.toNat / 4096 by omega]

/-- A code point beyond sixteen bits takes four bytes. -/
theorem encodeChar_four {c : Char} (h₁ : 0x10000 ≤ c.toNat) :
    String.utf8EncodeChar c
      = [UInt8.ofNat (c.toNat / 262144 + 0xF0), UInt8.ofNat (c.toNat / 4096 % 64 + 0x80),
          UInt8.ofNat (c.toNat / 64 % 64 + 0x80), UInt8.ofNat (c.toNat % 64 + 0x80)] := by
  have hv : c.val.toNat = c.toNat := rfl
  have hlt := toNat_lt_max c
  rw [String.utf8EncodeChar, hv, if_neg (by omega), if_neg (by omega), if_neg (by omega),
    show c.toNat / 262144 % 0x08 = c.toNat / 262144 by omega]

/-! ### The decoder between two characters -/

/-- A continuation byte that is not the last. -/
theorem decodeFrom_inside {more : Nat} {low high : UInt8} {value : Nat} {b : UInt8}
    {rest : List UInt8} (h : low ≤ b ∧ b ≤ high) (hmore : 1 < more) :
    decodeFrom (.inside more low high value) (b :: rest)
      = decodeFrom (.inside (more - 1) 0x80 0xBF (extend value b)) rest := by
  rw [decodeFrom, if_pos h, if_neg (by omega)]

/-- The last continuation byte. -/
theorem decodeFrom_inside_last {low high : UInt8} {value : Nat} {b : UInt8}
    {rest : List UInt8} (h : low ≤ b ∧ b ≤ high) :
    decodeFrom (.inside 1 low high value) (b :: rest)
      = (decodeFrom .start rest).map (Char.ofNat (extend value b) :: ·) := by
  rw [decodeFrom, if_pos h, if_pos (Nat.le_refl 1)]

/-- What is decoded inside a character begins with a byte within the bounds. -/
theorem decodeFrom_inside_inv {more : Nat} {low high : UInt8} {value : Nat}
    {bytes : List UInt8} {cs : List Char}
    (h : decodeFrom (.inside more low high value) bytes = some cs) :
    ∃ b rest, bytes = b :: rest ∧ low ≤ b ∧ b ≤ high := by
  cases bytes with
  | nil => cases h
  | cons b rest =>
      rw [decodeFrom] at h
      split at h
      · next hb => exact ⟨b, rest, rfl, hb⟩
      · cases h

/-! ### Forms -/

/-- A continuation byte. -/
def IsTail (b : UInt8) : Prop :=
  0x80 ≤ b.toNat ∧ b.toNat ≤ 0xBF

/-- The well-formed **forms** of a character, each with its code point. -/
inductive Form : List UInt8 → Nat → Prop where
  /-- One byte. -/
  | one {b : UInt8} : b.toNat < 0x80 → Form [b] b.toNat
  /-- Two bytes. -/
  | two {b x : UInt8} : 0xC2 ≤ b.toNat → b.toNat < 0xE0 → IsTail x →
      Form [b, x] (extend (b.toNat - 0xC0) x)
  /-- Three bytes, of a code point that needs them and is no surrogate. -/
  | three {b x y : UInt8} : 0xE0 ≤ b.toNat → b.toNat < 0xF0 → IsTail x →
      0x20 ≤ extend (b.toNat - 0xE0) x →
      ¬ (0x360 ≤ extend (b.toNat - 0xE0) x ∧ extend (b.toNat - 0xE0) x < 0x380) → IsTail y →
      Form [b, x, y] (extend (extend (b.toNat - 0xE0) x) y)
  /-- Four bytes, of a code point that needs them and is not beyond the last. -/
  | four {b x y z : UInt8} : 0xF0 ≤ b.toNat → b.toNat ≤ 0xF4 → IsTail x →
      0x10 ≤ extend (b.toNat - 0xF0) x → extend (b.toNat - 0xF0) x < 0x110 →
      IsTail y → IsTail z →
      Form [b, x, y, z] (extend (extend (extend (b.toNat - 0xF0) x) y) z)

/-- A continuation byte is within the bounds that hold where nothing else restricts it. -/
theorem isTail_iff {b : UInt8} : IsTail b ↔ (0x80 : UInt8) ≤ b ∧ b ≤ 0xBF :=
  Iff.rfl

/-- The byte that carries six bits is a continuation byte. -/
theorem isTail_ofNat (v : Nat) : IsTail (UInt8.ofNat (v % 64 + 0x80)) := by
  have hb := byte_toNat (show v % 64 + 0x80 < 256 by omega)
  constructor
  · rw [hb]
    omega
  · rw [hb]
    omega

/-- The bits of the byte that carries six bits. -/
theorem extend_ofNat (value v : Nat) :
    extend value (UInt8.ofNat (v % 64 + 0x80)) = 64 * value + v % 64 := by
  unfold extend
  rw [byte_toNat (by omega), Nat.add_sub_cancel]

/-- A character is encoded in a form. -/
theorem form_encodeChar (c : Char) : Form (String.utf8EncodeChar c) c.toNat := by
  -- That the code point is one of a character bounds the second byte of a long form.
  have hvalid : c.toNat.isValidChar := c.valid
  by_cases h₁ : c.toNat < 0x80
  · have hb := byte_toNat (show c.toNat < 256 by omega)
    rw [encodeChar_one h₁]
    have hform := Form.one (b := UInt8.ofNat c.toNat) (by omega)
    rwa [hb] at hform
  by_cases h₂ : c.toNat < 0x800
  · have hb := byte_toNat (show c.toNat / 64 + 0xC0 < 256 by omega)
    have hform := Form.two (b := UInt8.ofNat (c.toNat / 64 + 0xC0)) (by omega) (by omega)
      (isTail_ofNat c.toNat)
    rw [extend_ofNat, hb, Nat.add_sub_cancel, Nat.div_add_mod] at hform
    rwa [encodeChar_two (by omega) h₂]
  by_cases h₃ : c.toNat < 0x10000
  · have hb := byte_toNat (show c.toNat / 4096 + 0xE0 < 256 by omega)
    have hx := extend_ofNat (c.toNat / 4096) (c.toNat / 64)
    have hdiv : 64 * (c.toNat / 4096) + c.toNat / 64 % 64 = c.toNat / 64 := by omega
    have hform := Form.three (b := UInt8.ofNat (c.toNat / 4096 + 0xE0)) (by omega) (by omega)
      (isTail_ofNat (c.toNat / 64)) (by rw [hb, Nat.add_sub_cancel, hx]; omega)
      (by rw [hb, Nat.add_sub_cancel, hx]; omega) (isTail_ofNat c.toNat)
    rw [hb, Nat.add_sub_cancel, hx, hdiv, extend_ofNat, Nat.div_add_mod] at hform
    rwa [encodeChar_three (by omega) h₃]
  · have hb := byte_toNat (show c.toNat / 262144 + 0xF0 < 256 by omega)
    have hx := extend_ofNat (c.toNat / 262144) (c.toNat / 4096)
    have hdiv₁ : 64 * (c.toNat / 262144) + c.toNat / 4096 % 64 = c.toNat / 4096 := by omega
    have hdiv₂ : 64 * (c.toNat / 4096) + c.toNat / 64 % 64 = c.toNat / 64 := by omega
    have hform := Form.four (b := UInt8.ofNat (c.toNat / 262144 + 0xF0)) (by omega) (by omega)
      (isTail_ofNat (c.toNat / 4096)) (by rw [hb, Nat.add_sub_cancel, hx]; omega)
      (by rw [hb, Nat.add_sub_cancel, hx]; omega) (isTail_ofNat (c.toNat / 64))
      (isTail_ofNat c.toNat)
    rw [hb, Nat.add_sub_cancel, hx, hdiv₁, extend_ofNat (c.toNat / 4096), hdiv₂,
      extend_ofNat, Nat.div_add_mod] at hform
    rwa [encodeChar_four (by omega)]

/-- The bits before a continuation byte. -/
theorem extend_div (value : Nat) {b : UInt8} (h : IsTail b) : extend value b / 64 = value := by
  unfold extend IsTail at *
  omega

/-- The bits of a continuation byte. -/
theorem ofNat_extend_mod {value : Nat} {b : UInt8} (h : IsTail b) :
    UInt8.ofNat (extend value b % 64 + 0x80) = b := by
  have hb : b.toNat = extend value b % 64 + 0x80 := by
    unfold extend IsTail at *
    omega
  rw [← hb, UInt8.ofNat_toNat]

/-- The first byte of a form, by what it says. -/
theorem ofNat_sub_add {b : UInt8} {n : Nat} (h : n ≤ b.toNat) :
    UInt8.ofNat (b.toNat - n + n) = b := by
  rw [Nat.sub_add_cancel h, UInt8.ofNat_toNat]

/-- The value of a form is a code point. -/
theorem Form.isValidChar {bytes : List UInt8} {v : Nat} (h : Form bytes v) : v.isValidChar := by
  cases h with
  | one hb => omega
  | @two b x h₁ h₂ hx =>
      have hv := extend_div (b.toNat - 0xC0) hx
      omega
  | @three b x y h₁ h₂ hx hlow hsurr hy =>
      have hv := extend_div (extend (b.toNat - 0xE0) x) hy
      have hw := extend_div (b.toNat - 0xE0) hx
      omega
  | @four b x y z h₁ h₂ hx hlow hhigh hy hz =>
      have hv := extend_div (extend (extend (b.toNat - 0xF0) x) y) hz
      have hw := extend_div (extend (b.toNat - 0xF0) x) hy
      omega

/-- A form encodes the character of its code point. -/
theorem Form.encodeChar {bytes : List UInt8} {v : Nat} (h : Form bytes v) :
    String.utf8EncodeChar (Char.ofNat v) = bytes := by
  have htoNat := toNat_ofNat h.isValidChar
  cases h with
  | one hb => rw [encodeChar_one (by omega), htoNat, UInt8.ofNat_toNat]
  | @two b x h₁ h₂ hx =>
      have hv := extend_div (b.toNat - 0xC0) hx
      rw [encodeChar_two (by omega) (by omega), htoNat, hv, ofNat_sub_add (by omega),
        ofNat_extend_mod hx]
  | @three b x y h₁ h₂ hx hlow hsurr hy =>
      have hv := extend_div (extend (b.toNat - 0xE0) x) hy
      have hw := extend_div (b.toNat - 0xE0) hx
      have hquot : extend (extend (b.toNat - 0xE0) x) y / 4096 = b.toNat - 0xE0 := by omega
      rw [encodeChar_three (by omega) (by omega), htoNat, hquot, hv, ofNat_sub_add (by omega),
        ofNat_extend_mod hx, ofNat_extend_mod hy]
  | @four b x y z h₁ h₂ hx hlow hhigh hy hz =>
      have hv := extend_div (extend (extend (b.toNat - 0xF0) x) y) hz
      have hw := extend_div (extend (b.toNat - 0xF0) x) hy
      have hu := extend_div (b.toNat - 0xF0) hx
      have hquot₁ : extend (extend (extend (b.toNat - 0xF0) x) y) z / 4096
          = extend (b.toNat - 0xF0) x := by omega
      have hquot₂ : extend (extend (extend (b.toNat - 0xF0) x) y) z / 262144
          = b.toNat - 0xF0 := by omega
      rw [encodeChar_four (by omega), htoNat, hquot₂, hquot₁, hv, ofNat_sub_add (by omega),
        ofNat_extend_mod hx, ofNat_extend_mod hy, ofNat_extend_mod hz]

/-- The decoder reads a form as the character of its code point. -/
theorem Form.decodeFrom {bytes : List UInt8} {v : Nat} (h : Form bytes v) (rest : List UInt8) :
    decodeFrom .start (bytes ++ rest) = (decodeFrom .start rest).map (Char.ofNat v :: ·) := by
  cases h with
  | one hb => rw [List.singleton_append, Utf8.decodeFrom, lead_one hb]
  | two h₁ h₂ hx =>
      rw [List.cons_append, Utf8.decodeFrom, lead_two h₁ h₂]
      exact decodeFrom_inside_last (isTail_iff.1 hx)
  | three h₁ h₂ hx hlow hsurr hy =>
      obtain ⟨low, high, hlead, hbounds⟩ := lead_three h₁ h₂
      have hsecond := (hbounds _).2 ⟨hx.1, hx.2, hlow, hsurr⟩
      rw [List.cons_append, Utf8.decodeFrom, hlead]
      dsimp only
      rw [List.cons_append, decodeFrom_inside hsecond (by omega)]
      exact decodeFrom_inside_last (isTail_iff.1 hy)
  | four h₁ h₂ hx hlow hhigh hy hz =>
      obtain ⟨low, high, hlead, hbounds⟩ := lead_four h₁ h₂
      have hsecond := (hbounds _).2 ⟨hx.1, hx.2, hlow, hhigh⟩
      rw [List.cons_append, Utf8.decodeFrom, hlead]
      dsimp only
      rw [List.cons_append, decodeFrom_inside hsecond (by omega), List.cons_append,
        decodeFrom_inside (isTail_iff.1 hy) (by omega)]
      exact decodeFrom_inside_last (isTail_iff.1 hz)

/-- Bytes that are decoded begin with a form, unless there are none. -/
theorem exists_form {b : UInt8} {rest : List UInt8} {cs : List Char}
    (h : decodeFrom .start (b :: rest) = some cs) :
    ∃ form v more, Form form v ∧ b :: rest = form ++ more := by
  have hb := toNat_lt b
  rw [decodeFrom] at h
  -- The first byte tells how long the form is, and what the second one may be.
  by_cases h₁ : b.toNat < 0x80
  · exact ⟨[b], b.toNat, rest, .one h₁, rfl⟩
  by_cases h₂ : b.toNat < 0xC2
  · rw [lead_invalid (.inl ⟨by omega, h₂⟩)] at h
    cases h
  by_cases h₃ : b.toNat < 0xE0
  · rw [lead_two (by omega) h₃] at h
    obtain ⟨x, more, rfl, hx⟩ := decodeFrom_inside_inv h
    exact ⟨[b, x], _, more, .two (by omega) h₃ (isTail_iff.2 hx), rfl⟩
  by_cases h₄ : b.toNat < 0xF0
  · obtain ⟨low, high, hlead, hbounds⟩ := lead_three (b := b) (by omega) h₄
    rw [hlead] at h
    obtain ⟨x, more, rfl, hx⟩ := decodeFrom_inside_inv h
    dsimp only at h
    rw [decodeFrom_inside hx (by omega)] at h
    obtain ⟨y, more, rfl, hy⟩ := decodeFrom_inside_inv h
    obtain ⟨htail₁, htail₂, hlow, hsurr⟩ := (hbounds x).1 hx
    exact ⟨[b, x, y], _, more,
      .three (by omega) h₄ ⟨htail₁, htail₂⟩ hlow hsurr (isTail_iff.2 hy), rfl⟩
  by_cases h₅ : b.toNat ≤ 0xF4
  · obtain ⟨low, high, hlead, hbounds⟩ := lead_four (b := b) (by omega) h₅
    rw [hlead] at h
    obtain ⟨x, more, rfl, hx⟩ := decodeFrom_inside_inv h
    dsimp only at h
    rw [decodeFrom_inside hx (by omega)] at h
    obtain ⟨y, more, rfl, hy⟩ := decodeFrom_inside_inv h
    rw [decodeFrom_inside hy (by omega)] at h
    obtain ⟨z, more, rfl, hz⟩ := decodeFrom_inside_inv h
    obtain ⟨htail₁, htail₂, hlow, hhigh⟩ := (hbounds x).1 hx
    exact ⟨[b, x, y, z], _, more, .four (by omega) h₅ ⟨htail₁, htail₂⟩ hlow hhigh
      (isTail_iff.2 hy) (isTail_iff.2 hz), rfl⟩
  · rw [lead_invalid (.inr (by omega))] at h
    cases h

/-! ### The decoder as the inverse of the encoder -/

/-- The **bytes of a character are read** as that character. -/
theorem decodeFrom_encodeChar (c : Char) (rest : List UInt8) :
    decodeFrom .start (String.utf8EncodeChar c ++ rest)
      = (decodeFrom .start rest).map (c :: ·) := by
  rw [(form_encodeChar c).decodeFrom rest, Char.ofNat_toNat]

/-- What is decoded is nothing, or begins with the bytes of a character. -/
theorem decodeFrom_start_inv {bytes : List UInt8} {cs : List Char}
    (h : decodeFrom .start bytes = some cs) :
    bytes = [] ∧ cs = [] ∨
      ∃ c cs' rest, bytes = String.utf8EncodeChar c ++ rest ∧ cs = c :: cs' ∧
        decodeFrom .start rest = some cs' := by
  cases bytes with
  | nil =>
      obtain rfl : [] = cs := Option.some.inj h
      exact .inl ⟨rfl, rfl⟩
  | cons b rest =>
      obtain ⟨form, v, more, hform, hbytes⟩ := exists_form h
      rw [hbytes, hform.decodeFrom] at h
      obtain ⟨cs', hmore, hcs⟩ := Option.map_eq_some_iff.1 h
      exact .inr ⟨Char.ofNat v, cs', more, by rw [hbytes, hform.encodeChar], hcs.symm, hmore⟩

/-- The decoder gives a text from its bytes. -/
theorem decode_encode (cs : List Char) : decode (encode cs) = some cs := by
  induction cs with
  | nil => rfl
  | cons c cs ih =>
      rw [encode, List.flatMap_cons, decode, decodeFrom_encodeChar]
      exact Option.map_eq_some_iff.2 ⟨cs, ih, rfl⟩

/-- Texts of the same bytes are the same. -/
theorem encode_inj {cs ds : List Char} : encode cs = encode ds ↔ cs = ds := by
  constructor
  · intro h
    exact Option.some.inj ((decode_encode cs).symm.trans (h ▸ decode_encode ds))
  · rintro rfl
    rfl

/-- The **decoder accepts UTF-8 and nothing else**: it gives a text for the bytes of that text
and for no others. -/
theorem decode_eq_some_iff {bytes : List UInt8} {cs : List Char} :
    decode bytes = some cs ↔ bytes = encode cs := by
  constructor
  · intro h
    induction cs generalizing bytes with
    | nil =>
        rcases decodeFrom_start_inv h with ⟨rfl, -⟩ | ⟨c, cs', rest, -, hcs, -⟩
        · rfl
        · cases hcs
    | cons c cs ih =>
        rcases decodeFrom_start_inv h with ⟨-, hcs⟩ | ⟨c', cs', rest, rfl, hcs, hrest⟩
        · cases hcs
        · cases hcs
          rw [ih hrest]
          rfl
  · rintro rfl
    exact decode_encode cs

/-! ### The bytes of a text -/

/-- The bytes of two texts in a row. -/
theorem encode_append (cs ds : List Char) : encode (cs ++ ds) = encode cs ++ encode ds :=
  List.flatMap_append

/-- The size of a text is the **number of its bytes**. -/
theorem length_encode (cs : List Char) : (encode cs).length = size cs := by
  induction cs with
  | nil => rfl
  | cons c cs ih =>
      rw [encode, List.flatMap_cons, List.length_append, String.length_utf8EncodeChar, size, ← ih]
      rfl

/-- The size of two texts in a row. -/
theorem size_append (cs ds : List Char) : size (cs ++ ds) = size cs + size ds := by
  rw [← length_encode, encode_append, List.length_append, length_encode, length_encode]

/-- A text takes bytes if it is not empty. -/
theorem size_pos {cs : List Char} (h : cs ≠ []) : 0 < size cs := by
  cases cs with
  | nil => exact absurd rfl h
  | cons c cs => exact Nat.add_pos_left (Char.utf8Size_pos c) _

/-- A text takes at least the bytes of a part of it. -/
theorem size_le_of_sublist {cs ds : List Char} (h : cs.Sublist ds) : size cs ≤ size ds := by
  induction h with
  | slnil => exact Nat.le_refl 0
  | cons d _ ih => exact Nat.le_trans ih (Nat.le_add_left _ _)
  | cons_cons d _ ih => exact Nat.add_le_add_left ih _

/-- A byte of a character is that of an ASCII character, or that of none. -/
theorem mem_encodeChar_cases {c : Char} {b : UInt8} (hb : b ∈ String.utf8EncodeChar c) :
    b.toNat = c.toNat ∨ 0x80 ≤ b.toNat := by
  generalize hbytes : String.utf8EncodeChar c = bytes at hb
  have hform := hbytes ▸ form_encodeChar c
  generalize c.toNat = v at hform
  suffices h : ∀ b ∈ bytes, b.toNat = v ∨ 0x80 ≤ b.toNat from h b hb
  cases hform with
  | one h => exact List.forall_mem_singleton.2 (.inl rfl)
  | two h₁ h₂ hx =>
      simp only [List.forall_mem_cons]
      exact ⟨.inr (by omega), .inr hx.1, nofun⟩
  | three h₁ h₂ hx hlow hsurr hy =>
      simp only [List.forall_mem_cons]
      exact ⟨.inr (by omega), .inr hx.1, .inr hy.1, nofun⟩
  | four h₁ h₂ hx hlow hhigh hy hz =>
      simp only [List.forall_mem_cons]
      exact ⟨.inr (by omega), .inr hx.1, .inr hy.1, .inr hz.1, nofun⟩

end Scaffold.Text.Utf8
