import Scaffold.Proofs.Text.Utf8

/-!
# The order of bytes

Texts are ordered by their code points, and the bytes that encode them in the same way: the
first byte of a character grows with the length of its form, and within one length the bits of
the code point are spread over the bytes from the highest to the lowest.

## Main results

* `encodeChar_append_lt` - the bytes of different characters decide, whatever follows them.
* `encode_lt_encode` - the bytes of texts are ordered as the texts are.
-/

namespace Scaffold.Text.Utf8

/-! ### The first byte of a character -/

/-- Of two lists of bytes the first bytes decide, and the rests if the first bytes are one. -/
theorem ofNat_cons_lt {m n : Nat} {xs ys : List UInt8} (hm : m < 256) (hn : n < 256)
    (h : m < n ∨ m = n ∧ xs < ys) : UInt8.ofNat m :: xs < UInt8.ofNat n :: ys := by
  refine List.cons_lt_cons_iff.2 ?_
  rcases h with h | ⟨rfl, h⟩
  · exact .inl ((UInt8.ofNat_lt_iff_lt hm hn).2 h)
  · exact .inr ⟨rfl, h⟩

/-- The number of the first byte of a code point. -/
def leadNumber (v : Nat) : Nat :=
  if v < 0x80 then v
  else if v < 0x800 then v / 64 + 0xC0
  else if v < 0x10000 then v / 4096 + 0xE0
  else v / 262144 + 0xF0

/-- The number of the first byte, by the length of the form. -/
theorem leadNumber_cases (v : Nat) :
    v < 0x80 ∧ leadNumber v = v ∨
    0x80 ≤ v ∧ v < 0x800 ∧ leadNumber v = v / 64 + 0xC0 ∨
    0x800 ≤ v ∧ v < 0x10000 ∧ leadNumber v = v / 4096 + 0xE0 ∨
    0x10000 ≤ v ∧ leadNumber v = v / 262144 + 0xF0 := by
  unfold leadNumber
  split
  · omega
  split
  · omega
  split <;> omega

/-- The first byte of a character. -/
theorem exists_encodeChar_eq_cons (c : Char) :
    ∃ tail, String.utf8EncodeChar c = UInt8.ofNat (leadNumber c.toNat) :: tail := by
  rcases leadNumber_cases c.toNat with ⟨h, hlead⟩ | ⟨h₁, h₂, hlead⟩ | ⟨h₁, h₂, hlead⟩ | ⟨h, hlead⟩
  · exact ⟨_, hlead ▸ encodeChar_one h⟩
  · exact ⟨_, hlead ▸ encodeChar_two h₁ h₂⟩
  · exact ⟨_, hlead ▸ encodeChar_three h₁ h₂⟩
  · exact ⟨_, hlead ▸ encodeChar_four h⟩

/-! ### The other bytes -/

/-- Numbers that differ in the last six bits only. -/
theorem tail_one_lt {v w : Nat} (h : v < w) (hv : v / 64 = w / 64) (xs ys : List UInt8) :
    UInt8.ofNat (v % 64 + 0x80) :: xs < UInt8.ofNat (w % 64 + 0x80) :: ys :=
  ofNat_cons_lt (by omega) (by omega) (.inl (by omega))

/-- Numbers that differ in the last twelve bits only. -/
theorem tail_two_lt {v w : Nat} (h : v < w) (hv : v / 4096 = w / 4096) (xs ys : List UInt8) :
    UInt8.ofNat (v / 64 % 64 + 0x80) :: UInt8.ofNat (v % 64 + 0x80) :: xs <
      UInt8.ofNat (w / 64 % 64 + 0x80) :: UInt8.ofNat (w % 64 + 0x80) :: ys := by
  refine ofNat_cons_lt (by omega) (by omega) ?_
  by_cases hnext : v / 64 = w / 64
  · exact .inr ⟨by rw [hnext], tail_one_lt h hnext xs ys⟩
  · exact .inl (by omega)

/-- Numbers that differ in the last eighteen bits only. -/
theorem tail_three_lt {v w : Nat} (h : v < w) (hv : v / 262144 = w / 262144)
    (xs ys : List UInt8) :
    UInt8.ofNat (v / 4096 % 64 + 0x80) :: UInt8.ofNat (v / 64 % 64 + 0x80) ::
        UInt8.ofNat (v % 64 + 0x80) :: xs <
      UInt8.ofNat (w / 4096 % 64 + 0x80) :: UInt8.ofNat (w / 64 % 64 + 0x80) ::
        UInt8.ofNat (w % 64 + 0x80) :: ys := by
  refine ofNat_cons_lt (by omega) (by omega) ?_
  by_cases hnext : v / 4096 = w / 4096
  · exact .inr ⟨by rw [hnext], tail_two_lt h hnext xs ys⟩
  · exact .inl (by omega)

/-! ### Characters and texts -/

/-- The **bytes of different characters decide**, whatever follows them. -/
theorem encodeChar_append_lt {c d : Char} (h : c < d) (xs ys : List UInt8) :
    String.utf8EncodeChar c ++ xs < String.utf8EncodeChar d ++ ys := by
  have hlt : c.toNat < d.toNat := h
  have hmax := toNat_lt_max d
  have hc := leadNumber_cases c.toNat
  have hd := leadNumber_cases d.toNat
  by_cases hlead : leadNumber c.toNat = leadNumber d.toNat
  · -- Characters with one first byte have forms of one length.
    rcases hd with ⟨h₁, hd⟩ | ⟨h₁, h₂, hd⟩ | ⟨h₁, h₂, hd⟩ | ⟨h₁, hd⟩
    · omega
    · rw [encodeChar_two (by omega) (by omega), encodeChar_two h₁ h₂]
      exact ofNat_cons_lt (by omega) (by omega) (.inr ⟨by omega, tail_one_lt hlt (by omega) _ _⟩)
    · rw [encodeChar_three (by omega) (by omega), encodeChar_three h₁ h₂]
      exact ofNat_cons_lt (by omega) (by omega) (.inr ⟨by omega, tail_two_lt hlt (by omega) _ _⟩)
    · rw [encodeChar_four (by omega), encodeChar_four h₁]
      exact ofNat_cons_lt (by omega) (by omega)
        (.inr ⟨by omega, tail_three_lt hlt (by omega) _ _⟩)
  · obtain ⟨ctail, hctail⟩ := exists_encodeChar_eq_cons c
    obtain ⟨dtail, hdtail⟩ := exists_encodeChar_eq_cons d
    rw [hctail, hdtail]
    exact ofNat_cons_lt (by omega) (by omega) (.inl (by omega))

/-- The **bytes of texts are ordered as the texts** are: those of the smaller text are the smaller
ones. -/
theorem encode_lt_encode {cs ds : List Char} (h : cs < ds) : encode cs < encode ds := by
  induction h with
  | @nil d ds =>
      obtain ⟨tail, htail⟩ := exists_encodeChar_eq_cons d
      rw [encode, encode, List.flatMap_cons, htail]
      exact List.nil_lt_cons _ _
  | @cons c cs ds h ih => exact List.append_left_lt ih
  | @rel c cs d ds h => exact encodeChar_append_lt h _ _

end Scaffold.Text.Utf8
