import Scaffold.Proofs.Discovery.Rewriting
import Scaffold.Proofs.Json.Nulls

/-!
# Documents without a null

Null for a field of a document, of a resource, of a method or of a parameter is the same as no
value for it. The exception is a field that is given twice, which is refused, null or not. A text
in which no object repeats a key can do so only for the scopes of a method, which have two names.

## Main results

* `nullAsMissing_names` - a map from names.
* `Document.nullAsMissing_shape` - a document is read the same without a null.
* `Document.decode_null` - and decoded the same.
* `Document.decode_null_twice` - null for a field that is given under its other name.
-/

namespace Scaffold.Discovery

open Json (Tree Form DropsNull Alone NullAsMissing KeysApart KeysApartWithin Means Spelled
  plainContent)

variable {α : Type}

/-! ### Maps and records -/

/-- A **map from names** is read the same without a null in one of its values. -/
theorem nullAsMissing_names {f : Form} {R : Tree → α → Prop} (h : NullAsMissing f R) :
    NullAsMissing (.names f) (IsNames R) := by
  intro names others t t' hdrops d
  cases hdrops with
  | @member _ _ _ pre post key t t' hstep =>
      have hvalue : ∀ v : String × α, (Means key v.1 ∧ R t v.2) ↔
          Alone names others ∧ Means key v.1 ∧ R t' v.2 := by
        intro v
        rw [h hstep v.2]
        exact and_left_comm
      rw [isNames_object_iff, isNames_object_iff]
      constructor
      · rintro ⟨values, hgiving, hfind⟩
        obtain ⟨_, _, -, -, hback⟩ := Json.exists_append_of_forall₂ hgiving
        obtain ⟨v, _, hv, -, -⟩ := List.forall₂_cons_left_iff.1 hback
        exact ⟨((hvalue v).1 hv).1, values,
          Json.forall₂_replace (fun v hv => ((hvalue v).1 hv).2) hgiving, hfind⟩
      · rintro ⟨halone, values, hgiving, hfind⟩
        exact ⟨values, Json.forall₂_replace (fun v hv => (hvalue v).2 ⟨halone, hv⟩) hgiving, hfind⟩
  | element hstep => exact absurd hstep Json.not_dropsNull_plain

/-- A parameter is read the same. -/
theorem Parameter.nullAsMissing_shape :
    NullAsMissing (.record Parameter.fields) Parameter.Shape := by
  intro names others t t' hdrops p
  rw [← Parameter.isRecord_iff, ← Parameter.isRecord_iff]
  refine Json.nullAsMissing_record Parameter.lawful_slots ?_ hdrops p
  exact .cons ⟨rfl, Json.nullAsMissing_plain _⟩ <| .cons ⟨rfl, Json.nullAsMissing_plain _⟩ <|
    .cons ⟨rfl, Json.nullAsMissing_plain _⟩ .nil

/-- So is a method. -/
theorem Method.nullAsMissing_shape : NullAsMissing (.record Method.fields) Method.Shape := by
  intro names others t t' hdrops m
  rw [← Method.isRecord_iff, ← Method.isRecord_iff]
  refine Json.nullAsMissing_record Method.lawful_slots ?_ hdrops m
  exact .cons ⟨rfl, Json.nullAsMissing_plain _⟩ <|
    .cons ⟨rfl, nullAsMissing_names Parameter.nullAsMissing_shape⟩ <|
    .cons ⟨rfl, Json.nullAsMissing_plain _⟩ <| .cons ⟨rfl, Json.nullAsMissing_plain _⟩ <|
    .cons ⟨rfl, Json.nullAsMissing_plain _⟩ .nil

/-- So is a resource. -/
theorem Resource.nullAsMissing_shape : NullAsMissing (.record Resource.fields) Resource.Shape := by
  intro names others t t' hdrops r
  rw [← Resource.isRecord_iff, ← Resource.isRecord_iff]
  refine Json.nullAsMissing_record Resource.lawful_slots ?_ hdrops r
  exact .cons ⟨rfl, nullAsMissing_names Method.nullAsMissing_shape⟩ .nil

/-- So is a **document**. -/
theorem Document.nullAsMissing_shape : NullAsMissing Document.form Document.Shape := by
  intro names others t t' hdrops d
  rw [← Document.isRecord_iff, ← Document.isRecord_iff]
  refine Json.nullAsMissing_record Document.lawful_slots ?_ hdrops d
  exact .cons ⟨rfl, Json.nullAsMissing_plain _⟩ <| .cons ⟨rfl, Json.nullAsMissing_plain _⟩ <|
    .cons ⟨rfl, Json.nullAsMissing_plain _⟩ <|
    .cons ⟨rfl, nullAsMissing_names Resource.nullAsMissing_shape⟩ .nil

/-! ### The decoder -/

/-- A text is decoded to a document if the text without a null is, and no other member names the
field. -/
theorem Document.decode_eq_ok_iff_of_dropsNull {names : List String}
    {others : List (List Json.Piece × Tree)} {t t' : Tree} {bytes bytes' : List UInt8}
    (hdrops : DropsNull Document.form names others t t') (ht : Spelled t.tokens bytes)
    (ht' : Spelled t'.tokens bytes') {doc : Document} :
    decode bytes = .ok doc ↔ Alone names others ∧ decode bytes' = .ok doc := by
  have h := Json.whole_tokens_eq_ok_iff_of_spelled reads_document ht (a := doc)
  have h' := Json.whole_tokens_eq_ok_iff_of_spelled reads_document ht' (a := doc)
  exact h.trans ((nullAsMissing_shape hdrops doc).trans (and_congr_right' h'.symm))

/-- **Null is the same as a missing value.** If a text has null for a field, of the document or of
a resource, a method or a parameter in it, and another text is the same without that member, then
both are decoded to the same document, or both are refused, unless another member of the same
object names the field, too; then the text with null is refused. In a text in which no object
repeats a key, no other member does if the field has one name only. -/
theorem Document.decode_null {names : List String} {others : List (List Json.Piece × Tree)}
    {t t' : Tree} {bytes bytes' : List UInt8} (ht : Spelled t.tokens bytes)
    (ht' : Spelled t'.tokens bytes') (hdrops : DropsNull Document.form names others t t') :
    (KeysApartWithin Document.form t → names.length = 1 → Alone names others) ∧
      (Alone names others → (decode bytes).toOption = (decode bytes').toOption) ∧
      (¬ Alone names others → ∃ failure, decode bytes = .error failure) := by
  refine ⟨hdrops.alone, fun halone => Option.ext fun doc => ?_, fun halone =>
    exists_error fun doc hdoc => ?_⟩
  · rw [toOption_eq_some_iff, toOption_eq_some_iff]
    exact (decode_eq_ok_iff_of_dropsNull hdrops ht ht').trans (and_iff_right halone)
  · exact halone ((decode_eq_ok_iff_of_dropsNull hdrops ht ht').1 hdoc).1

/-- A document with one method, whose fields have these values. -/
def methodTree (members : List (String × Tree)) : Tree :=
  .object [(plainContent "resources", .object [(plainContent "a", .object [(plainContent "methods",
    .object [(plainContent "b", .object (members.map fun m => (plainContent m.1, m.2)))])])])]

/-- The text of such a document. -/
def methodText (members : String) : List UInt8 :=
  Json.octets ("\x7b\"resources\":\x7b\"a\":\x7b\"methods\":\x7b\"b\":\x7b" ++ members ++
    "\x7d\x7d\x7d\x7d\x7d").toList

/-- A null for a field of the method can be dropped. -/
theorem dropsNull_methodTree {field : List String × Form} {name : String}
    (hfield : field ∈ Method.fields) (hname : name ∈ field.1) (front back : List (String × Tree)) :
    DropsNull Document.form field.1 ((front ++ back).map fun m => (plainContent m.1, m.2))
      (methodTree (front ++ (name, .null) :: back)) (methodTree (front ++ back)) := by
  have hform : ((Document.form.member (plainContent "resources")).member
      (plainContent "a")).member (plainContent "methods") = .names (.record Method.fields) := by
    rw [Document.form, Form.member_record (Json.means_plainContent "resources")]
    exact Form.member_record (Json.means_plainContent "methods")
  refine .only (.only (.only ?_))
  rw [hform]
  refine .only ?_
  rw [List.map_append, List.map_append]
  exact .here hfield hname (Json.means_plainContent name)

/-- Keys that are written without escapes are apart if they are different. -/
theorem keysApart_plainContent {members : List (String × Tree)}
    (h : (members.map (·.1)).Nodup) : KeysApart (members.map fun m => (plainContent m.1, m.2)) := by
  rw [KeysApart, List.map_map, List.pairwise_map]
  refine (List.pairwise_map.1 h).imp fun hne name hname hname' => hne ?_
  rw [(Json.means_plainContent _).unique hname, (Json.means_plainContent _).unique hname']

/-- No object repeats a key if the method does not. -/
theorem keysApartWithin_methodTree {members : List (String × Tree)}
    (hnames : (members.map (·.1)).Nodup) (hvalues : ∀ m ∈ members, ∀ f, KeysApartWithin f m.2) :
    KeysApartWithin Document.form (methodTree members) := by
  rw [methodTree]
  iterate 4
    refine Json.keysApartWithin_object_iff.2 ⟨List.pairwise_singleton _ _, ?_⟩
    rw [List.forall_mem_singleton]
  refine Json.keysApartWithin_object_iff.2 ⟨keysApart_plainContent hnames, ?_⟩
  rw [List.forall_mem_map]
  exact fun m hm => hvalues m hm _

/-- The value of a list with one text. -/
def scopesTree : Tree :=
  .list [.text (plainContent "s")]

/-- No object is in it. -/
theorem keysApartWithin_scopesTree (f : Form) : KeysApartWithin f scopesTree := by
  refine Json.keysApartWithin_list_iff.2 fun i e he => ?_
  obtain rfl := List.mem_singleton.1 (List.mem_of_getElem? he)
  exact Json.keysApartWithin_text _ _

/-- A null path is the same as no path, and is refused beside another path. -/
theorem Document.decode_null_path :
    (∃ doc, decode (methodText "\"path\":null,\"scope\":[\"s\"]") = .ok doc ∧
      decode (methodText "\"scope\":[\"s\"]") = .ok doc) ∧
    ∃ failure, decode (methodText "\"path\":null,\"path\":\"p\"") = .error failure := by
  have hfield : (["path"], Form.plain) ∈ Method.fields := by simp [Method.fields]
  constructor
  · have hnull : Spelled (methodTree [("path", .null), ("scope", scopesTree)]).tokens
        (methodText "\"path\":null,\"scope\":[\"s\"]") :=
      Json.spelled_tree_iff.2 (by decide +kernel)
    have hnone : Spelled (methodTree [("scope", scopesTree)]).tokens
        (methodText "\"scope\":[\"s\"]") := Json.spelled_tree_iff.2 (by decide +kernel)
    obtain ⟨halone, hsame, -⟩ := Document.decode_null hnull hnone
      (dropsNull_methodTree hfield List.mem_cons_self [] [("scope", scopesTree)])
    have hapart : KeysApartWithin Document.form
        (methodTree [("path", .null), ("scope", scopesTree)]) := by
      refine keysApartWithin_methodTree (by decide) ?_
      exact List.forall_mem_cons.2 ⟨Json.keysApartWithin_null,
        List.forall_mem_singleton.2 keysApartWithin_scopesTree⟩
    have haccepted : ((decode (methodText "\"scope\":[\"s\"]")).map fun _ => ()) = .ok () := by
      decide +kernel
    obtain ⟨doc, hdoc, -⟩ := map_eq_ok_iff.1 haccepted
    refine ⟨doc, toOption_eq_some_iff.1 ?_, hdoc⟩
    rw [hsame (halone hapart rfl), toOption_eq_some_iff]
    exact hdoc
  · have hnull : Spelled (methodTree [("path", .null), ("path", .text (plainContent "p"))]).tokens
        (methodText "\"path\":null,\"path\":\"p\"") :=
      Json.spelled_tree_iff.2 (by decide +kernel)
    have hnone : Spelled (methodTree [("path", .text (plainContent "p"))]).tokens
        (methodText "\"path\":\"p\"") := Json.spelled_tree_iff.2 (by decide +kernel)
    refine (Document.decode_null hnull hnone
      (dropsNull_methodTree hfield List.mem_cons_self [] _)).2.2 fun halone => ?_
    exact halone _ List.mem_cons_self "path" List.mem_cons_self (Json.means_plainContent "path")

/-- Null for a field that is given **under its other name** makes a difference: no object repeats a
key, and the text with the null is refused, but the one without it is not. -/
theorem Document.decode_null_twice :
    KeysApartWithin Document.form (methodTree [("scope", .null), ("scopes", scopesTree)]) ∧
      DropsNull Document.form ["scopes", "scope"] [(plainContent "scopes", scopesTree)]
        (methodTree [("scope", .null), ("scopes", scopesTree)])
        (methodTree [("scopes", scopesTree)]) ∧
      Spelled (methodTree [("scope", .null), ("scopes", scopesTree)]).tokens
        (methodText "\"scope\":null,\"scopes\":[\"s\"]") ∧
      Spelled (methodTree [("scopes", scopesTree)]).tokens (methodText "\"scopes\":[\"s\"]") ∧
      decode (methodText "\"scope\":null,\"scopes\":[\"s\"]") =
        .error (.duplicateField "scopes") ∧
      ∃ doc, decode (methodText "\"scopes\":[\"s\"]") = .ok doc := by
  have hrefused : ((decode (methodText "\"scope\":null,\"scopes\":[\"s\"]")).map fun _ => ()) =
      .error (.duplicateField "scopes") := by decide +kernel
  have haccepted : ((decode (methodText "\"scopes\":[\"s\"]")).map fun _ => ()) = .ok () := by
    decide +kernel
  obtain ⟨doc, hdoc, -⟩ := map_eq_ok_iff.1 haccepted
  have hfield : (["scopes", "scope"], Form.plain) ∈ Method.fields := by simp [Method.fields]
  have hname : "scope" ∈ ["scopes", "scope"] := by simp
  refine ⟨keysApartWithin_methodTree (by decide) ?_,
    dropsNull_methodTree hfield hname [] [("scopes", scopesTree)],
    Json.spelled_tree_iff.2 (by decide +kernel), Json.spelled_tree_iff.2 (by decide +kernel),
    map_eq_error_iff.1 hrefused, doc, hdoc⟩
  exact List.forall_mem_cons.2 ⟨Json.keysApartWithin_null,
    List.forall_mem_singleton.2 keysApartWithin_scopesTree⟩

end Scaffold.Discovery
