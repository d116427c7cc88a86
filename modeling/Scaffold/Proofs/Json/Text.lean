import Scaffold.Json.Text
import Scaffold.Proofs.Except
import Scaffold.Proofs.Json.Tree
import Scaffold.Proofs.Text.Utf8

/-!
# The text that a string stands for

Which strings stand for a text, and for which: the code units of its escapes have to come
alone or in pairs as UTF-16 has them, and the bytes that its pieces stand for have to be the
UTF-8 bytes of the text.

## Main results

* `bytesOf_eq_ok_iff` - the bytes of the pieces.
* `textOf_eq_ok_iff` - the text of the string.
-/

namespace Scaffold.Json

/-- The **bytes that pieces stand for**. A code unit is a character by itself, or the first of
a pair whose second follows it at once. -/
inductive Codes : List Piece → List UInt8 → Prop where
  | nil : Codes [] []
  | byte {b : UInt8} {ps : List Piece} {bs : List UInt8} :
      Codes ps bs → Codes (.byte b :: ps) (b :: bs)
  | named {c : Char} {ps : List Piece} {bs : List UInt8} :
      Codes ps bs → Codes (.named c :: ps) (String.utf8EncodeChar c ++ bs)
  | unit {u : Nat} {ps : List Piece} {bs : List UInt8} :
      ¬ (0xD800 ≤ u ∧ u ≤ 0xDFFF) → Codes ps bs →
      Codes (.unit u :: ps) (String.utf8EncodeChar (Char.ofNat u) ++ bs)
  | pair {high low : Nat} {ps : List Piece} {bs : List UInt8} :
      0xD800 ≤ high → high ≤ 0xDBFF → 0xDC00 ≤ low → low ≤ 0xDFFF → Codes ps bs →
      Codes (.unit high :: .unit low :: ps)
        (String.utf8EncodeChar
          (Char.ofNat (0x10000 + (high - 0xD800) * 0x400 + (low - 0xDC00))) ++ bs)

/-- The **content of a string stands for a text**: its bytes are those of the text. -/
def Means (ps : List Piece) (s : String) : Prop :=
  Codes ps (Text.Utf8.encode s.toList)

/-- The first units of pairs. -/
theorem isHighSurrogate_iff {u : Nat} : isHighSurrogate u = true ↔ 0xD800 ≤ u ∧ u ≤ 0xDBFF := by
  rw [isHighSurrogate, Bool.and_eq_true, decide_eq_true_iff, decide_eq_true_iff]

/-- The second units of pairs. -/
theorem isLowSurrogate_iff {u : Nat} : isLowSurrogate u = true ↔ 0xDC00 ≤ u ∧ u ≤ 0xDFFF := by
  rw [isLowSurrogate, Bool.and_eq_true, decide_eq_true_iff, decide_eq_true_iff]

/-- Bytes are found only for the pieces that stand for them. -/
theorem bytesOf_inv {ps : List Piece} {fault : Option StringFault} {bs : List UInt8}
    (h : bytesOf ps fault = .ok bs) : fault = none ∧ Codes ps bs := by
  fun_induction bytesOf ps fault generalizing bs with
  | case1 hfault =>
      cases h
      exact ⟨hfault, .nil⟩
  | case2 => cases h
  | case3 b ps ih =>
      obtain ⟨bs', hbs, rfl⟩ := map_eq_ok_iff.1 h
      exact (ih hbs).imp_right .byte
  | case4 c ps ih =>
      obtain ⟨bs', hbs, rfl⟩ := map_eq_ok_iff.1 h
      exact (ih hbs).imp_right .named
  | case5 => cases h
  | case6 u hlow hhigh v ps hv ih =>
      obtain ⟨bs', hbs, rfl⟩ := map_eq_ok_iff.1 h
      obtain ⟨h₁, h₂⟩ := isHighSurrogate_iff.1 hhigh
      obtain ⟨h₃, h₄⟩ := isLowSurrogate_iff.1 hv
      exact (ih hbs).imp_right (.pair h₁ h₂ h₃ h₄)
  | case7 => cases h
  | case8 => cases h
  | case9 => cases h
  | case10 u ps hlow hhigh ih =>
      obtain ⟨bs', hbs, rfl⟩ := map_eq_ok_iff.1 h
      rw [isLowSurrogate_iff] at hlow
      rw [isHighSurrogate_iff] at hhigh
      exact (ih hbs).imp_right (.unit (by omega))

/-- The bytes that pieces stand for are found. -/
theorem bytesOf_codes {ps : List Piece} {bs : List UInt8} (h : Codes ps bs) :
    bytesOf ps none = .ok bs := by
  induction h with
  | nil => rfl
  | byte _ ih =>
      rw [bytesOf, ih]
      rfl
  | named _ ih =>
      rw [bytesOf, ih]
      rfl
  | @unit u ps bs hu _ ih =>
      have hlow : ¬ isLowSurrogate u = true := by
        rw [isLowSurrogate_iff]
        omega
      have hhigh : ¬ isHighSurrogate u = true := by
        rw [isHighSurrogate_iff]
        omega
      rw [bytesOf.eq_def]
      dsimp only
      rw [if_neg hlow, if_neg hhigh, ih]
      rfl
  | @pair high low ps bs h₁ h₂ h₃ h₄ _ ih =>
      have hlow : ¬ isLowSurrogate high = true := by
        rw [isLowSurrogate_iff]
        omega
      rw [bytesOf, if_neg hlow, if_pos (isHighSurrogate_iff.2 ⟨h₁, h₂⟩),
        if_pos (isLowSurrogate_iff.2 ⟨h₃, h₄⟩), ih]
      rfl

/-- The bytes of a string are found **exactly where its pieces stand for them**, and the string
does not break off. -/
theorem bytesOf_eq_ok_iff {ps : List Piece} {fault : Option StringFault} {bs : List UInt8} :
    bytesOf ps fault = .ok bs ↔ fault = none ∧ Codes ps bs := by
  constructor
  · exact bytesOf_inv
  · rintro ⟨rfl, h⟩
    exact bytesOf_codes h

/-- A string has a text **exactly where it stands for one**, and does not break off. -/
theorem textOf_eq_ok_iff {ps : List Piece} {fault : Option StringFault} {s : String} :
    textOf ps fault = .ok s ↔ fault = none ∧ Means ps s := by
  rw [textOf, bind_eq_ok_iff]
  constructor
  · rintro ⟨bs, hbs, h⟩
    obtain ⟨hfault, hcodes⟩ := bytesOf_eq_ok_iff.1 hbs
    split at h
    · next cs hdecode =>
      obtain rfl := Except.ok.inj h
      obtain rfl := Text.Utf8.decode_eq_some_iff.1 hdecode
      refine ⟨hfault, ?_⟩
      rwa [Means, String.toList_ofList]
    · cases h
  · rintro ⟨hfault, hcodes⟩
    refine ⟨_, bytesOf_eq_ok_iff.2 ⟨hfault, hcodes⟩, ?_⟩
    rw [Text.Utf8.decode_encode]
    dsimp only
    rw [String.ofList_toList]

/-- A string in which **nothing is escaped**. -/
def plainContent (s : String) : List Piece :=
  (Text.Utf8.encode s.toList).map .byte

/-- It stands for the text that it is. -/
theorem means_plainContent (s : String) : Means (plainContent s) s := by
  rw [Means, plainContent]
  induction Text.Utf8.encode s.toList with
  | nil => exact .nil
  | cons b bs ih => exact .byte ih

end Scaffold.Json
