import Scaffold.Proofs.Discovery.Decode
import Scaffold.Proofs.Json.Extent

/-!
# Documents that are cut short or run on

The text of a document is decoded as a whole or not at all. A part of it, up to wherever it was
cut, is no document, and neither is a document with anything behind it. White space at the end is
not part of the document, and makes no difference.

## Main results

* `Document.isGap_of_decode_append` - what a document may be continued with.
* `Document.decode_whole` - documents that are cut short or run on.
-/

namespace Scaffold.Discovery

open Json (Tree Spelled IsGap)

/-- A document is an object or a list, and so it is no number. -/
theorem Document.Shape.ne_number {t : Tree} {doc : Document} (h : Document.Shape t doc)
    (n : Json.Numeral) : t ≠ .number n := by
  obtain ⟨_, _, _, _, ⟨ms, _, rfl, -⟩ | ⟨es, rfl, -⟩, -⟩ := h <;> nofun

/-- If the text of a document goes on as the text of one, **only white space** is added. -/
theorem Document.isGap_of_decode_append {bytes more : List UInt8} {doc doc' : Document}
    (h : decode bytes = .ok doc) (h' : decode (bytes ++ more) = .ok doc') : IsGap more := by
  obtain ⟨t, ht, hshape⟩ := (Json.whole_tokens_eq_ok_iff reads_document).1 h
  obtain ⟨t', ht', -⟩ := (Json.whole_tokens_eq_ok_iff reads_document).1 h'
  exact ht.isGap_of_append hshape.ne_number ht'

/-- With white space behind it, a document is the same. -/
theorem Document.decode_append_gap {bytes gap : List UInt8} {doc : Document}
    (h : decode bytes = .ok doc) (hgap : IsGap gap) : decode (bytes ++ gap) = .ok doc := by
  obtain ⟨t, ht, hshape⟩ := (Json.whole_tokens_eq_ok_iff reads_document).1 h
  exact (Json.whole_tokens_eq_ok_iff reads_document).2 ⟨t, ht.append_gap hgap, hshape⟩

/-- **A document that is cut short is refused, and so is one that runs on.** Of the text of a
document, no front part is decoded that leaves out anything but white space; and with anything
but white space behind it, the text is not decoded either. -/
theorem Document.decode_whole {bytes : List UInt8} {doc : Document} (h : decode bytes = .ok doc) :
    (∀ front back, bytes = front ++ back → ¬ IsGap back →
      ∃ failure, decode front = .error failure) ∧
    ∀ more, (IsGap more → decode (bytes ++ more) = .ok doc) ∧
      (¬ IsGap more → ∃ failure, decode (bytes ++ more) = .error failure) := by
  refine ⟨fun front back hbytes hback => exists_error fun doc' hfront => hback ?_, fun more =>
    ⟨decode_append_gap h, fun hmore => exists_error fun doc' hall => hmore ?_⟩⟩
  · exact isGap_of_decode_append hfront (hbytes ▸ h)
  · exact isGap_of_decode_append h hall

/-- The front of a text, up to its last brace. -/
def frontText : List UInt8 :=
  Json.octets "\x7b\"resources\":\x7b\x7d".toList

/-- The rest of the text. -/
def backText : List UInt8 :=
  Json.octets "\x7d\n".toList

/-- Without its last brace the document is refused, and so are two copies of it in a row. -/
theorem Document.decode_whole_twice :
    (∃ doc, decode (frontText ++ backText) = .ok doc) ∧ ¬ IsGap backText ∧
      (∃ failure, decode frontText = .error failure) ∧
      ∃ failure, decode ((frontText ++ backText) ++ (frontText ++ backText)) = .error failure := by
  have haccepted : ((decode (frontText ++ backText)).map fun _ => ()) = .ok () := by decide +kernel
  obtain ⟨doc, hdoc, -⟩ := map_eq_ok_iff.1 haccepted
  have hback : ¬ IsGap backText := fun h => absurd (h _ List.mem_cons_self) (by decide)
  have hboth : ¬ IsGap (frontText ++ backText) := fun h =>
    absurd (h _ List.mem_cons_self) (by decide)
  obtain ⟨hcut, hlonger⟩ := Document.decode_whole hdoc
  exact ⟨⟨doc, hdoc⟩, hback, hcut _ _ rfl hback, (hlonger _).2 hboth⟩

end Scaffold.Discovery
