import Scaffold.Proofs.Discovery.Names
import Scaffold.Proofs.Json.Rewriting

/-!
# Documents that say the same

A document is decoded to the same from every text that says the same: the order of members and
the members that the decoder does not know make no difference, at any depth, nor does the white
space. Only a key that stands for no text does: the decoder has to know each key of a record
before it can skip its value.

## Main definitions

* `Document.form` - which parts of a document are maps and which are records.

## Main results

* `kept_names` - a map from names.
* `Document.kept_shape` - a document is read the same after a step of rewriting.
* `Document.decode_rewrites` - it is decoded the same after any number of them.
* `Document.decode_unpaired` - an unknown member whose key stands for no text.
-/

namespace Scaffold.Discovery

open Json (Tree Form Rewrites NamesApart KeysApart Kept FieldsKept Means Spelled)

variable {α : Type}

/-! ### The forms -/

/-- How the fields of a parameter are read. -/
def Parameter.fields : List (List String × Form) :=
  [(["type"], .plain), (["location"], .plain), (["required"], .plain)]

/-- How the fields of a method are read. -/
def Method.fields : List (List String × Form) :=
  [(["httpMethod"], .plain), (["parameters"], .names (.record Parameter.fields)),
    (["path"], .plain), (["flatPath"], .plain), (["scopes", "scope"], .plain)]

/-- How the fields of a resource are read. -/
def Resource.fields : List (List String × Form) :=
  [(["methods"], .names (.record Method.fields))]

/-- How the fields of a document are read. -/
def Document.fields : List (List String × Form) :=
  [(["name"], .plain), (["version"], .plain), (["title"], .plain),
    (["resources"], .names (.record Resource.fields))]

/-- How the **parts of a document** are read. -/
def Document.form : Form :=
  .record Document.fields

/-! ### Maps and records -/

/-- The names of members are different if their keys stand for different texts. -/
theorem nodup_names {R : Tree → α → Prop} {ms : List (List Json.Piece × Tree)}
    {values : List (String × α)} (h : Giving R ms values) (hkeys : KeysApart ms) :
    (values.map (·.1)).Nodup := by
  induction h with
  | nil => exact .nil
  | @cons m v ms values hm hms ih =>
      obtain ⟨hfirst, hrest⟩ := List.pairwise_cons.1 hkeys
      refine List.nodup_cons.2 ⟨fun hmem => ?_, ih hrest⟩
      obtain ⟨w, hw, hname⟩ := List.mem_map.1 hmem
      obtain ⟨n, hn, hmeans, -⟩ := Json.exists_mem_of_forall₂ hms hw
      rw [hname] at hmeans
      exact hfirst n.1 (List.mem_map_of_mem hn) v.1 hm.1 hmeans

/-- A **map from names** is read the same whatever the order of its members. -/
theorem kept_names {f : Form} {R : Tree → α → Prop} (h : Kept f R) :
    Kept (.names f) (IsNames R) := by
  intro t t' d hrewrites ht hd
  obtain ⟨ms, values, rfl, hgiving, hfind⟩ := isNames_iff.1 hd
  obtain ⟨hself, hvalues⟩ := Json.namesApart_object_iff.1 ht
  cases hrewrites with
  | @permute _ _ ms' hperm =>
      obtain ⟨values', hgiving', hsame⟩ := List.perm_comp_forall₂ hperm.symm hgiving
      have hnodup := nodup_names hgiving (hself f rfl)
      have hnodup' := (hsame.map (·.1)).nodup_iff.2 hnodup
      refine isNames_iff.2 ⟨ms', values', rfl, hgiving', fun name => ?_⟩
      rw [hfind name]
      refine Option.ext fun a => ?_
      rw [find?_reverse_eq_some_iff, find?_reverse_eq_some_iff, lasts_eq_self hnodup,
        lasts_eq_self hnodup', hsame.mem_iff]
  | add hunknown =>
      obtain ⟨fields, name, hf, -⟩ := hunknown
      cases hf
  | drop hunknown =>
      obtain ⟨fields, name, hf, -⟩ := hunknown
      cases hf
  | @member _ pre post key t t' hstep =>
      have htree := hvalues (key, t) (List.mem_append_right _ List.mem_cons_self)
      have hreplace : ∀ v : String × α, (Means key v.1 ∧ R t v.2) → Means key v.1 ∧ R t' v.2 :=
        fun v hv => ⟨hv.1, h hstep htree hv.2⟩
      exact isNames_iff.2 ⟨_, values, rfl, Json.forall₂_replace hreplace hgiving, hfind⟩

/-- A parameter is read the same. -/
theorem Parameter.kept_shape : Kept (.record Parameter.fields) Parameter.Shape := by
  have hfields : FieldsKept Parameter.slots Parameter.fields :=
    .cons ⟨rfl, Json.kept_text .plain⟩ <| .cons ⟨rfl, Json.kept_text .plain⟩ <|
      .cons ⟨rfl, Json.kept_boolean .plain⟩ .nil
  intro t t' p hrewrites ht hp
  exact Parameter.isRecord_iff.1
    (Json.kept_record Parameter.lawful_slots hfields hrewrites ht (Parameter.isRecord_iff.2 hp))

/-- So is a method. -/
theorem Method.kept_shape : Kept (.record Method.fields) Method.Shape := by
  have hfields : FieldsKept Method.slots Method.fields :=
    .cons ⟨rfl, Json.kept_text .plain⟩ <| .cons ⟨rfl, kept_names Parameter.kept_shape⟩ <|
      .cons ⟨rfl, Json.kept_text .plain⟩ <|
      .cons ⟨rfl, Json.kept_nullOr (Json.kept_some (Json.kept_text .plain)) none⟩ <|
      .cons ⟨rfl, Json.kept_list (Json.kept_text .plain)⟩ .nil
  intro t t' m hrewrites ht hm
  exact Method.isRecord_iff.1
    (Json.kept_record Method.lawful_slots hfields hrewrites ht (Method.isRecord_iff.2 hm))

/-- So is a resource. -/
theorem Resource.kept_shape : Kept (.record Resource.fields) Resource.Shape := by
  have hfields : FieldsKept Resource.slots Resource.fields :=
    .cons ⟨rfl, kept_names Method.kept_shape⟩ .nil
  intro t t' r hrewrites ht hr
  exact Resource.isRecord_iff.1
    (Json.kept_record Resource.lawful_slots hfields hrewrites ht (Resource.isRecord_iff.2 hr))

/-- So is a **document**. -/
theorem Document.kept_shape : Kept Document.form Document.Shape := by
  have hfields : FieldsKept Document.slots Document.fields :=
    .cons ⟨rfl, Json.kept_text .plain⟩ <| .cons ⟨rfl, Json.kept_text .plain⟩ <|
      .cons ⟨rfl, Json.kept_text .plain⟩ <| .cons ⟨rfl, kept_names Resource.kept_shape⟩ .nil
  intro t t' d hrewrites ht hd
  exact Document.isRecord_iff.1
    (Json.kept_record Document.lawful_slots hfields hrewrites ht (Document.isRecord_iff.2 hd))

/-! ### The decoder -/

/-- A document is decoded **the same from texts that say the same**: if its text spells a value in
which no map repeats a name, every text that spells the value rewritten is decoded to it. -/
theorem Document.decode_rewrites {bytes bytes' : List UInt8} {doc : Document} {t t' : Tree}
    (hdecode : Document.decode bytes = .ok doc) (ht : Spelled t.tokens bytes)
    (hapart : NamesApart Document.form t)
    (hrewrites : Relation.ReflTransGen (Rewrites Document.form) t t')
    (ht' : Spelled t'.tokens bytes') : Document.decode bytes' = .ok doc := by
  have hshape := (Json.whole_tokens_eq_ok_iff_of_spelled reads_document ht).1 hdecode
  exact (Json.whole_tokens_eq_ok_iff_of_spelled reads_document ht').2
    (kept_shape.of_reflTransGen hrewrites hapart hshape)

/-- The text of an empty object. -/
def emptyText : List UInt8 :=
  Json.octets "\x7b\x7d".toList

/-- The text of an object with one member, whose key is half of a pair of code units. -/
def unpairedText : List UInt8 :=
  Json.octets "\x7b\"\\ud800\":1\x7d".toList

/-- The value that it spells. -/
def unpairedTree : Tree :=
  .object [([.unit 0xD800], .number ⟨false, [1], none, none⟩)]

/-- An unknown member whose **key stands for no text** makes a difference: a document with it is
not decoded, and the one without it is. -/
theorem Document.decode_unpaired :
    Document.decode emptyText = .ok {} ∧ Spelled (Tree.object []).tokens emptyText ∧
      Spelled unpairedTree.tokens unpairedText ∧ (∀ name, ¬ Means [.unit 0xD800] name) ∧
      ∀ doc, Document.decode unpairedText ≠ .ok doc := by
  have hempty : Spelled (Tree.object []).tokens emptyText :=
    Json.spelled_tree_iff.2 (by decide +kernel)
  have hunpaired : Spelled unpairedTree.tokens unpairedText :=
    Json.spelled_tree_iff.2 (by decide +kernel)
  have hmeans : ∀ name, ¬ Means [.unit 0xD800] name := by
    intro name h
    cases (Json.textOf_eq_ok_iff.2 ⟨rfl, h⟩ : Json.textOf [.unit 0xD800] none = .ok name)
  refine ⟨?_, hempty, hunpaired, hmeans, fun doc h => ?_⟩
  · refine (Json.whole_tokens_eq_ok_iff reads_document).2
      ⟨_, hempty, none, none, none, none, ?_, rfl, rfl, rfl, rfl⟩
    exact .inl ⟨[], [], rfl, .nil, .cons rfl (.cons rfl (.cons rfl (.cons rfl .nil)))⟩
  · have hshape := (Json.whole_tokens_eq_ok_iff_of_spelled reads_document hunpaired).1 h
    obtain ⟨_, _, _, _, ⟨ms, entries, hms, hkeyed, -⟩ | ⟨es, hes, -⟩, -⟩ := hshape
    · cases hms
      cases hkeyed with
      | cons hm _ => exact hmeans _ hm.1
    · cases hes

end Scaffold.Discovery
