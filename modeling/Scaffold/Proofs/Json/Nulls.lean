import Scaffold.Proofs.Json.Rewriting

/-!
# Values without a null

In a record, null under the name of a field stands for the default of the field, and so does
leaving the field out. Dropping the member makes no difference then, wherever in a value the
record stands, as long as no other member names the same field. Where one does, the field is
given twice, and the value is not read as anything.

Fields and their forms are those of `Rewrites`; unlike a step of rewriting, dropping a null
changes what is given for a field that the reader knows.

## Main definitions

* `DropsNull` - one null under the name of a field is dropped at a place of a value.
* `Alone` - no member is under one of some names.
* `NullAsMissing` - what a value is read as, if it has a null and if it has not.

## Main results

* `isRecord_null_iff` - a null in a record.
* `nullAsMissing_plain`, `nullAsMissing_nullOr`, `nullAsMissing_record` - the shapes.
* `DropsNull.alone` - fields with a single name, in values in which no object repeats a key.
-/

namespace Scaffold.Json

variable {α σ : Type}

/-! ### Dropping a null -/

/-- A **null under the name of a field is dropped** from a record at a place of a value that has a
form: all `names` of the field, the `others` in the record, the value with the null and the value
without it. -/
inductive DropsNull : Form → List String → List (List Piece × Tree) → Tree → Tree → Prop where
  | here {fields : List (List String × Form)} {field : List String × Form} {name : String}
      {pre post : List (List Piece × Tree)} {key : List Piece} :
      field ∈ fields → name ∈ field.1 → Means key name →
      DropsNull (.record fields) field.1 (pre ++ post) (.object (pre ++ (key, .null) :: post))
        (.object (pre ++ post))
  /-- The record stands in the value of a member. -/
  | member {f : Form} {names : List String} {others pre post : List (List Piece × Tree)}
      {key : List Piece} {t t' : Tree} :
      DropsNull (f.member key) names others t t' →
      DropsNull f names others (.object (pre ++ (key, t) :: post))
        (.object (pre ++ (key, t') :: post))
  /-- It stands in an element of a list. -/
  | element {f : Form} {names : List String} {others : List (List Piece × Tree)}
      {pre post : List Tree} {t t' : Tree} :
      DropsNull (f.element pre.length) names others t t' →
      DropsNull f names others (.list (pre ++ t :: post)) (.list (pre ++ t' :: post))

/-- The record stands in the value of the only member. -/
theorem DropsNull.only {f : Form} {names : List String} {others : List (List Piece × Tree)}
    {key : List Piece} {t t' : Tree} (h : DropsNull (f.member key) names others t t') :
    DropsNull f names others (.object [(key, t)]) (.object [(key, t')]) :=
  @member f names others [] [] key t t' h

/-- No member is **under one of the names**. -/
def Alone (names : List String) (ms : List (List Piece × Tree)) : Prop :=
  ∀ m ∈ ms, ∀ name ∈ names, ¬ Means m.1 name

/-- Plain values have no records in them. -/
theorem not_dropsNull_plain {names : List String} {others : List (List Piece × Tree)}
    {t t' : Tree} : ¬ DropsNull .plain names others t t' := by
  intro h
  generalize hf : Form.plain = f at h
  induction h with
  | here => cases hf
  | member _ ih =>
      subst hf
      exact ih rfl
  | element _ ih =>
      subst hf
      exact ih rfl

/-- A value in a record that has a record in it is a field's. -/
theorem DropsNull.exists_field {fields : List (List String × Form)} {names : List String}
    {others : List (List Piece × Tree)} {key : List Piece} {t t' : Tree}
    (h : DropsNull ((Form.record fields).member key) names others t t') :
    ∃ field ∈ fields, ∃ name ∈ field.1, Means key name := by
  rw [Form.member] at h
  split at h
  · next name hname =>
    cases hfind : fields.find? fun field => name ∈ field.1 with
    | none =>
        rw [hfind] at h
        exact absurd h not_dropsNull_plain
    | some field =>
        refine ⟨field, List.mem_of_find?_eq_some hfind, name, ?_, (textOf_eq_ok_iff.1 hname).2⟩
        simpa using List.find?_some hfind
  · exact absurd h not_dropsNull_plain

/-! ### Keys that are not repeated -/

/-- **No object repeats a key** in a value that has a form. -/
def KeysApartWithin (f : Form) (t : Tree) : Prop :=
  ∀ g ms, Within f t g (.object ms) → KeysApart ms

/-- The objects in an object: itself, and those in the values of its members. -/
theorem keysApartWithin_object_iff {f : Form} {ms : List (List Piece × Tree)} :
    KeysApartWithin f (.object ms) ↔
      KeysApart ms ∧ ∀ m ∈ ms, KeysApartWithin (f.member m.1) m.2 := by
  constructor
  · exact fun h => ⟨h f ms .self, fun m hm g ns hns => h g ns (.member hm hns)⟩
  · rintro ⟨hself, hms⟩ g ns hns
    cases hns with
    | self => exact hself
    | member hm hwithin => exact hms _ hm g ns hwithin

/-- A text has no objects in it. -/
theorem keysApartWithin_text (f : Form) (content : List Piece) :
    KeysApartWithin f (.text content) :=
  fun _ _ h => nomatch h

/-- Nor has null. -/
theorem keysApartWithin_null (f : Form) : KeysApartWithin f .null :=
  fun _ _ h => nomatch h

/-- The objects in a list are those in its elements. -/
theorem keysApartWithin_list_iff {f : Form} {es : List Tree} :
    KeysApartWithin f (.list es) ↔ ∀ i e, es[i]? = some e → KeysApartWithin (f.element i) e := by
  constructor
  · exact fun h i e he g ns hns => h g ns (.element he hns)
  · intro h g ns hns
    cases hns with
    | element he hwithin => exact h _ _ he g ns hwithin

/-- If no object repeats a key, a null under **the only name of a field** is all that the record has
for the field. -/
theorem DropsNull.alone {f : Form} {names : List String} {others : List (List Piece × Tree)}
    {t t' : Tree} (h : DropsNull f names others t t') (ht : KeysApartWithin f t)
    (hsingle : names.length = 1) : Alone names others := by
  induction h with
  | @here fields field name pre post key hfield hname hmeans =>
      obtain ⟨hself, -⟩ := keysApartWithin_object_iff.1 ht
      obtain ⟨only, honly⟩ := List.length_eq_one_iff.1 hsingle
      rw [honly] at hname ⊢
      obtain rfl := List.mem_singleton.1 hname
      rw [KeysApart, List.map_append, List.map_cons, List.pairwise_append] at hself
      obtain ⟨-, hbehind, hbefore⟩ := hself
      intro m hm other hother hm'
      obtain rfl := List.mem_singleton.1 hother
      rcases List.mem_append.1 hm with hm | hm
      · exact hbefore _ (List.mem_map_of_mem hm) _ List.mem_cons_self _ hm' hmeans
      · exact (List.pairwise_cons.1 hbehind).1 _ (List.mem_map_of_mem hm) _ hmeans hm'
  | @member f names others pre post key t t' _ ih =>
      exact ih ((keysApartWithin_object_iff.1 ht).2 (key, t) (by simp)) hsingle
  | @element f names others pre post t t' _ ih =>
      exact ih (keysApartWithin_list_iff.1 ht pre.length t (by simp)) hsingle

/-! ### What a value is read as -/

/-- A value **with a null is read as the value without it** if no other member names the field,
and as nothing else; if one does, it is not read as anything. -/
def NullAsMissing (f : Form) (R : Tree → α → Prop) : Prop :=
  ∀ ⦃names : List String⦄ ⦃others : List (List Piece × Tree)⦄ ⦃t t' : Tree⦄,
    DropsNull f names others t t' → ∀ a, R t a ↔ Alone names others ∧ R t' a

/-- Plain values. -/
theorem nullAsMissing_plain (R : Tree → α → Prop) : NullAsMissing .plain R :=
  fun _ _ _ _ h => absurd h not_dropsNull_plain

/-- A value from which a null is dropped is not null itself. -/
theorem nullAsMissing_nullOr {f : Form} {R : Tree → α → Prop} (h : NullAsMissing f R) (blank : α) :
    NullAsMissing f (NullOr blank R) := by
  intro names others t t' hdrops a
  have hiff : R t a ↔ Alone names others ∧ R t' a := h hdrops a
  cases hdrops with
  | here => exact hiff
  | member => exact hiff
  | element => exact hiff

/-! ### Records -/

/-- Whether members are under some names, by the texts that their keys stand for. -/
theorem alone_iff {names : List String} {ms : List (List Piece × Tree)}
    {entries : List (String × Tree)} (hkeyed : Keyed ms entries) :
    Alone names ms ↔ ∀ e ∈ entries, e.1 ∉ names := by
  induction hkeyed with
  | nil => exact ⟨fun _ => nofun, fun _ => nofun⟩
  | @cons m e ms entries hm _ ih =>
      have hfirst : (∀ name ∈ names, ¬ Means m.1 name) ↔ e.1 ∉ names := by
        constructor
        · exact fun h he => h e.1 he hm.1
        · intro he name hname hmeans
          exact he (hm.1.unique hmeans ▸ hname)
      rw [List.forall_mem_cons, ← hfirst, ← ih, Alone, Alone, List.forall_mem_cons]

/-- Members give nothing for a field if they are under none of its names. -/
theorem Slot.entriesOf_eq_nil_iff {a : Slot σ} {ms : List (List Piece × Tree)}
    {entries : List (String × Tree)} (hkeyed : Keyed ms entries) :
    a.entriesOf entries = [] ↔ Alone a.names ms := by
  rw [alone_iff hkeyed, entriesOf, List.filter_eq_nil_iff]
  simp only [decide_eq_true_eq]

/-- What a field has that is **not given**. -/
theorem Slot.given_none_iff {a : Slot σ} {entries : List (String × Tree)} {d : σ}
    (h : a.entriesOf entries = []) :
    (∃ value : Option Tree, (a.entriesOf entries).map (·.2) = value.toList ∧
        Given a.blank a.Shape value (a.get d)) ↔ a.get d = a.blank := by
  rw [h]
  constructor
  · rintro ⟨value, hvalue, hgiven⟩
    cases value with
    | none => exact hgiven
    | some t => cases hvalue
  · exact fun hblank => ⟨none, rfl, hblank⟩

/-- A **record with a null** under the name of a field is the record without it, if no other member
is the field's. -/
theorem isRecord_null_iff {slots : List (Slot σ)} (hslots : Lawful slots) {a : Slot σ}
    (ha : a ∈ slots) {pre post : List (List Piece × Tree)} {key : List Piece} {name : String}
    (hname : name ∈ a.names) (hmeans : Means key name) {d : σ} :
    IsRecord slots (.object (pre ++ (key, .null) :: post)) d ↔
      Alone a.names (pre ++ post) ∧ IsRecord slots (.object (pre ++ post)) d := by
  rw [isRecord_object_iff_forall, isRecord_object_iff_forall]
  constructor
  · rintro ⟨entries, hkeyed, hall⟩
    obtain ⟨front, back, rfl, hfront, hback⟩ := (keyed_append_cons_iff hmeans).1 hkeyed
    have hrest : Keyed (pre ++ post) (front ++ back) := List.rel_append hfront hback
    obtain ⟨hnone, -⟩ := (Slot.given_append_cons_iff hname).1 (hall a ha)
    refine ⟨(Slot.entriesOf_eq_nil_iff hrest).1 hnone, front ++ back, hrest, fun b hb => ?_⟩
    by_cases hb' : name ∈ b.names
    · obtain ⟨hnone, hblank⟩ := (Slot.given_append_cons_iff hb').1 (hall b hb)
      exact (Slot.given_none_iff hnone).2 hblank
    · rw [← Slot.entriesOf_append_cons hb' front back .null]
      exact hall b hb
  · rintro ⟨halone, entries, hkeyed, hall⟩
    obtain ⟨front, back, rfl, hfront, hback⟩ := exists_append_of_forall₂ hkeyed
    refine ⟨front ++ (name, .null) :: back,
      (keyed_append_cons_iff hmeans).2 ⟨front, back, rfl, hfront, hback⟩, fun b hb => ?_⟩
    by_cases hb' : name ∈ b.names
    · -- No two fields have a name in common, so that the field is the one the null is under.
      obtain rfl : a = b := by
        by_contra hne
        exact (hslots.apart_of_ne ha hb hne).names name hname hb'
      have hnone := (Slot.entriesOf_eq_nil_iff hkeyed).2 halone
      exact (Slot.given_append_cons_iff hname).2 ⟨hnone, (Slot.given_none_iff hnone).1 (hall a ha)⟩
    · rw [Slot.entriesOf_append_cons hb' front back .null]
      exact hall b hb

/-- A **record** is read the same with and without a null, at any place in it. -/
theorem nullAsMissing_record {slots : List (Slot σ)} (hslots : Lawful slots)
    {fields : List (List String × Form)}
    (hfields : List.Forall₂ (fun a field => field.1 = a.names ∧ NullAsMissing field.2 a.Shape)
      slots fields) : NullAsMissing (.record fields) (IsRecord slots) := by
  intro names others t t' hdrops d
  cases hdrops with
  | here hfield hname hmeans =>
      obtain ⟨a, ha, hnames, -⟩ := exists_mem_of_forall₂ hfields hfield
      rw [hnames] at hname ⊢
      exact isRecord_null_iff hslots ha hname hmeans
  | @member _ _ _ pre post key t t' hstep =>
      obtain ⟨field, hfield, name, hname, hmeans⟩ := hstep.exists_field
      obtain ⟨a, ha, hnames, -⟩ := exists_mem_of_forall₂ hfields hfield
      rw [hnames] at hname
      have hread : ∀ b ∈ slots, name ∈ b.names → ∀ v, b.Reading t v ↔
          Alone names others ∧ b.Reading t' v := fun b hb hb' =>
        nullAsMissing_nullOr (of_form_member (Q := fun b f => NullAsMissing f b.Shape) hfields
          hslots.apart hb hmeans hb') b.blank hstep
      constructor
      · intro hd
        have halone := (hread a ha hname _).1 (reading_of_isRecord_object hmeans hd ha hname)
        exact ⟨halone.1, hd.replace_member hmeans fun b hb hb' h => ((hread b hb hb' _).1 h).2⟩
      · rintro ⟨halone, hd⟩
        exact hd.replace_member hmeans fun b hb hb' h => (hread b hb hb' _).2 ⟨halone, h⟩
  | @element _ _ _ pre post t t' hstep =>
      have hread : ∀ b : Slot σ, slots[pre.length]? = some b → ∀ v, b.Reading t v ↔
          Alone names others ∧ b.Reading t' v := fun b hb =>
        nullAsMissing_nullOr (of_form_element (Q := fun b f => NullAsMissing f b.Shape) hfields hb)
          b.blank hstep
      constructor
      · intro hd
        obtain ⟨a, ha, h⟩ := reading_of_isRecord_list hd
        exact ⟨((hread a ha _).1 h).1, hd.replace_element fun b hb h => ((hread b hb _).1 h).2⟩
      · rintro ⟨halone, hd⟩
        exact hd.replace_element fun b hb h => (hread b hb _).2 ⟨halone, h⟩

end Scaffold.Json
