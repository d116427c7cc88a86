import Scaffold.Discovery.Writer
import Scaffold.Handler.Descriptor
import Scaffold.Proofs.Discovery.Names
import Scaffold.Proofs.Json.Written

/-!
# Documents are read as they were written

A document is written with all its fields under their own names, so what denotes the written
value has the shape of the document and of no other one. How the value is laid out as a text
does not matter: white space may stand between its tokens, and its strings may be escaped in any
way.

## Main results

* `isNames_of_denotes` - maps from names.
* `Parameter.shape_of_denotes`, `Method.shape_of_denotes`, `Resource.shape_of_denotes`,
  `Document.shape_of_denotes` - the parts of a document, and documents.
* `Document.decode_of_denotes` - any text of the written value.
* `Document.encode_decodes` - the text that is written.
-/

namespace Scaffold.Discovery

open Json (Tree Value Denotes NullOr IsText Spelled)

/-- What denotes a written map is **read as the map**, if what denotes a written value is read as
the value: no two entries have one name, so none is replaced. -/
theorem isNames_of_denotes {α : Type} {R : Tree → α → Prop} {write : α → Value}
    (hwrite : ∀ t a, Denotes t (write a) → R t a) {m : NameMap α} {t : Tree}
    (h : Denotes t (namesToJson write m)) : IsNames R t m := by
  obtain ⟨ms, rfl, hms⟩ := Json.denotes_object_iff.1 h
  rw [List.forall₂_map_right_iff] at hms
  refine isNames_iff.2 ⟨ms, m.entries, rfl, hms.imp fun _ _ hm => ⟨hm.1, hwrite _ _ hm.2⟩, ?_⟩
  have hnodup : (m.entries.map (·.1)).Nodup := by
    refine List.pairwise_map.2 (m.ordered.imp ?_)
    intro e e' hlt heq
    exact Std.lt_irrefl (heq ▸ hlt)
  intro name
  refine Option.ext fun a => ?_
  rw [find?_reverse_eq_some_iff, lasts_eq_self hnodup, SortedMap.find?_eq_some_iff]

/-- A text field that is written is read as its text. -/
theorem reading_text {blank s : String} {t : Tree} (h : Denotes t (.text s)) :
    NullOr blank IsText t s :=
  Json.nullOr_of_denotes h (Json.isText_of_denotes h) nofun

/-- What denotes a written parameter has the **shape of the parameter**. -/
theorem Parameter.shape_of_denotes {t : Tree} {p : Parameter} (h : Denotes t p.toJson) :
    Parameter.Shape t p := by
  refine Parameter.isRecord_iff.1 (Json.isRecord_of_denotes lawful_slots ?_ h)
  refine .cons ⟨rfl, fun t => reading_text⟩ (.cons ⟨rfl, fun t => reading_text⟩
    (.cons ⟨rfl, fun t ht => ?_⟩ .nil))
  exact Json.nullOr_of_denotes ht (Json.isBoolean_of_denotes ht) nofun

/-- What denotes a written method has the **shape of the method**. Null is written for the flat
path that is not there, and an empty text for the one that is empty. -/
theorem Method.shape_of_denotes {t : Tree} {m : Method} (h : Denotes t m.toJson) :
    Method.Shape t m := by
  refine Method.isRecord_iff.1 (Json.isRecord_of_denotes lawful_slots ?_ h)
  refine .cons ⟨rfl, fun t => reading_text⟩ (.cons ⟨rfl, fun t ht => ?parameters⟩
    (.cons ⟨rfl, fun t => reading_text⟩ (.cons ⟨rfl, fun t ht => ?flatPath⟩
      (.cons ⟨rfl, fun t ht => ?scopes⟩ .nil))))
  case parameters =>
    exact Json.nullOr_of_denotes ht
      (isNames_of_denotes (fun _ _ => Parameter.shape_of_denotes) ht) nofun
  case flatPath =>
    cases hflat : m.flatPath with
    | none =>
        rw [hflat] at ht
        cases ht
        exact hflat
    | some flat =>
        rw [hflat] at ht
        have hgiven : NullOr none (fun t flat => ∃ s, IsText t s ∧ flat = some s) t m.flatPath :=
          Json.nullOr_of_denotes ht ⟨flat, Json.isText_of_denotes ht, hflat⟩ nofun
        exact Json.nullOr_of_denotes ht hgiven nofun
  case scopes =>
    exact Json.nullOr_of_denotes ht
      (Json.isList_of_denotes (fun _ _ => Json.isText_of_denotes) ht) nofun

/-- What denotes a written resource has the **shape of the resource**. -/
theorem Resource.shape_of_denotes {t : Tree} {r : Resource} (h : Denotes t r.toJson) :
    Resource.Shape t r := by
  refine Resource.isRecord_iff.1 (Json.isRecord_of_denotes lawful_slots ?_ h)
  refine .cons ⟨rfl, fun t ht => ?_⟩ .nil
  exact Json.nullOr_of_denotes ht
    (isNames_of_denotes (fun _ _ => Method.shape_of_denotes) ht) nofun

/-- What denotes a written document has the **shape of the document**. -/
theorem Document.shape_of_denotes {t : Tree} {d : Document} (h : Denotes t d.toJson) :
    Document.Shape t d := by
  refine Document.isRecord_iff.1 (Json.isRecord_of_denotes lawful_slots ?_ h)
  refine .cons ⟨rfl, fun t => reading_text⟩ (.cons ⟨rfl, fun t => reading_text⟩
    (.cons ⟨rfl, fun t => reading_text⟩ (.cons ⟨rfl, fun t ht => ?_⟩ .nil)))
  exact Json.nullOr_of_denotes ht
    (isNames_of_denotes (fun _ _ => Resource.shape_of_denotes) ht) nofun

/-- **Any text of the written value** is decoded to the document, however it is laid out. -/
theorem Document.decode_of_denotes {t : Tree} {d : Document} (h : Denotes t d.toJson)
    {bytes : List UInt8} (hbytes : Spelled t.tokens bytes) : Document.decode bytes = .ok d :=
  (Json.whole_tokens_eq_ok_iff reads_document).2 ⟨t, hbytes, Document.shape_of_denotes h⟩

/-- **Decoding undoes encoding**: the text that is written for a document is decoded to that
document, and so gives the same enumeration. -/
theorem Document.encode_decodes (d : Document) :
    Document.decode (Text.Utf8.encode d.encode.toList) = .ok d ∧
      (Document.decode (Text.Utf8.encode d.encode.toList)).map Handler.enumerate =
        .ok (Handler.enumerate d) := by
  obtain ⟨t, hdenotes, hspelled⟩ := Json.exists_spelled_render d.toJson
  have hdecode : Document.decode (Text.Utf8.encode d.encode.toList) = .ok d :=
    Document.decode_of_denotes hdenotes hspelled
  refine ⟨hdecode, ?_⟩
  rw [hdecode]
  rfl

end Scaffold.Discovery
