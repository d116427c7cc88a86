import Mathlib.Data.List.Perm.Basic
import Mathlib.Logic.Relation
import Scaffold.Proofs.Json.Record
import Scaffold.Proofs.Json.Unique

/-!
# Rewriting values that say the same

A value is rewritten when members of an object in it change places, or when a member that its
reader does not know is added to an object that is read as a record, or dropped from it. Which
objects are records depends on where they stand: the `Form` of a value says which of its parts are
maps from names, which are records, and what fields these have.

What a value is read as is kept by every step, provided that no map in it has two members with one
name, since of these the last counts. One lemma for each shape says so, as one theorem for each
shape says what its reader reads.

## Main definitions

* `Form` - how the parts of a value are read.
* `Rewrites` - one step of rewriting at a place of a value.
* `Within` - the values that stand in a value.
* `Kept` - what a value is read as does not change when it is rewritten.

## Main results

* `Rewrites.namesApart` - rewriting brings no two members with one name into a map.
* `reading_of_isRecord_object`, `reading_of_isRecord_list` - what stands in a record.
* `IsRecord.replace_member`, `IsRecord.replace_element` - a value in a record is replaced.
* `kept_text`, `kept_boolean`, `kept_nullOr`, `kept_list`, `kept_record` - the shapes.
* `Kept.of_reflTransGen` - many steps.
-/

namespace Scaffold.Json

variable {α σ : Type}

/-! ### Forms and steps -/

/-- How the parts of a value are read. -/
inductive Form where
  /-- Neither as a map nor as a record: as a single value, a list of these, or not at all. -/
  | plain
  /-- As a map from names to values of one form. -/
  | names (values : Form)
  /-- As a record whose fields have these names and forms, in their order. -/
  | record (fields : List (List String × Form))

namespace Form

/-- The form of the value **under a key**. -/
def member (f : Form) (key : List Piece) : Form :=
  match f with
  | plain => plain
  | names values => values
  | record fields =>
    match textOf key none with
    | .ok name => ((fields.find? fun field => name ∈ field.1).map (·.2)).getD plain
    | .error _ => plain

/-- The form of the value **at a place** of a list. -/
def element (f : Form) (i : Nat) : Form :=
  match f with
  | record fields => (fields[i]?.map (·.2)).getD plain
  | _ => plain

/-- The form of the value under a key that stands for a text. -/
theorem member_record {fields : List (List String × Form)} {key : List Piece} {name : String}
    (h : Means key name) : (record fields).member key =
      ((fields.find? fun field => name ∈ field.1).map (·.2)).getD plain := by
  rw [member, textOf_eq_ok_iff.2 ⟨rfl, h⟩]

/-- A key is **unknown** to a record: it stands for a text that is no name of a field. -/
def Unknown (f : Form) (key : List Piece) : Prop :=
  ∃ fields name, f = record fields ∧ Means key name ∧ ∀ field ∈ fields, name ∉ field.1

/-- Values under unknown keys are not read. -/
theorem member_of_unknown {f : Form} {key : List Piece} (h : f.Unknown key) :
    f.member key = plain := by
  obtain ⟨fields, name, rfl, hmeans, hnames⟩ := h
  have hfind : (fields.find? fun field => name ∈ field.1) = none := by
    rw [List.find?_eq_none]
    exact fun field hfield => by simpa using hnames field hfield
  rw [member_record hmeans, hfind]
  rfl

end Form

/-- One **step of rewriting** at a place of a value that has a form: members of an object change
places, or a member under an unknown key is added to a record or dropped from it. -/
inductive Rewrites : Form → Tree → Tree → Prop where
  | permute {f : Form} {ms ms' : List (List Piece × Tree)} :
      ms.Perm ms' → Rewrites f (.object ms) (.object ms')
  | add {f : Form} {pre post : List (List Piece × Tree)} {m : List Piece × Tree} :
      f.Unknown m.1 → Rewrites f (.object (pre ++ post)) (.object (pre ++ m :: post))
  | drop {f : Form} {pre post : List (List Piece × Tree)} {m : List Piece × Tree} :
      f.Unknown m.1 → Rewrites f (.object (pre ++ m :: post)) (.object (pre ++ post))
  /-- A step in the value of a member. -/
  | member {f : Form} {pre post : List (List Piece × Tree)} {key : List Piece} {t t' : Tree} :
      Rewrites (f.member key) t t' →
      Rewrites f (.object (pre ++ (key, t) :: post)) (.object (pre ++ (key, t') :: post))
  /-- A step in an element of a list. -/
  | element {f : Form} {pre post : List Tree} {t t' : Tree} :
      Rewrites (f.element pre.length) t t' →
      Rewrites f (.list (pre ++ t :: post)) (.list (pre ++ t' :: post))

/-! ### Repeated names -/

/-- No two members of an object have **keys that stand for one text**. -/
def KeysApart (ms : List (List Piece × Tree)) : Prop :=
  (ms.map (·.1)).Pairwise fun key key' => ∀ name, Means key name → ¬ Means key' name

/-- Members whose keys are apart are so in any order. -/
theorem KeysApart.perm {ms ms' : List (List Piece × Tree)} (h : KeysApart ms) (hperm : ms.Perm ms') :
    KeysApart ms' :=
  ((hperm.map _).pairwise_iff fun h name hn hm => h name hm hn).1 h

/-- Whether keys are apart does not depend on the values. -/
theorem KeysApart.replace {pre post : List (List Piece × Tree)} {key : List Piece} {t : Tree}
    (h : KeysApart (pre ++ (key, t) :: post)) (t' : Tree) :
    KeysApart (pre ++ (key, t') :: post) := by
  rw [KeysApart, List.map_append, List.map_cons] at h ⊢
  exact h

/-- A value with its form that **stands in a value** with a form. -/
inductive Within : Form → Tree → Form → Tree → Prop where
  | self {f : Form} {t : Tree} : Within f t f t
  | member {f g : Form} {ms : List (List Piece × Tree)} {m : List Piece × Tree} {u : Tree} :
      m ∈ ms → Within (f.member m.1) m.2 g u → Within f (.object ms) g u
  | element {f g : Form} {es : List Tree} {i : Nat} {e u : Tree} :
      es[i]? = some e → Within (f.element i) e g u → Within f (.list es) g u

/-- No map in a value has **two members with one name**. -/
def NamesApart (f : Form) (t : Tree) : Prop :=
  ∀ g ms, Within f t (.names g) (.object ms) → KeysApart ms

/-- What stands in a plain value is plain. -/
theorem Within.eq_plain {g : Form} {t u : Tree} (h : Within .plain t g u) : g = .plain := by
  generalize hf : Form.plain = f at h
  induction h with
  | self => rfl
  | member _ _ ih =>
      subst hf
      exact ih rfl
  | element _ _ ih =>
      subst hf
      exact ih rfl

/-- Plain values have no maps. -/
theorem namesApart_plain (t : Tree) : NamesApart .plain t :=
  fun _ _ h => nomatch h.eq_plain

/-- The maps in an object: the object itself if it is one, and those in the values of its
members. -/
theorem namesApart_object_iff {f : Form} {ms : List (List Piece × Tree)} :
    NamesApart f (.object ms) ↔
      (∀ g, f = .names g → KeysApart ms) ∧ ∀ m ∈ ms, NamesApart (f.member m.1) m.2 := by
  constructor
  · intro h
    refine ⟨?_, fun m hm g ns hns => h g ns (.member hm hns)⟩
    rintro g rfl
    exact h g ms .self
  · rintro ⟨hself, hms⟩ g ns hns
    cases hns with
    | self => exact hself g rfl
    | member hm hwithin => exact hms _ hm g ns hwithin

/-- The maps in a list are those in its elements. -/
theorem namesApart_list_iff {f : Form} {es : List Tree} :
    NamesApart f (.list es) ↔ ∀ i e, es[i]? = some e → NamesApart (f.element i) e := by
  constructor
  · exact fun h i e he g ns hns => h g ns (.element he hns)
  · intro h g ns hns
    cases hns with
    | element he hwithin => exact h _ _ he g ns hwithin

/-- The elements of a list of which one was replaced. -/
theorem getElem?_replace {pre post : List Tree} {t t' e : Tree} {i : Nat}
    (h : (pre ++ t' :: post)[i]? = some e) :
    (i = pre.length ∧ e = t') ∨ (pre ++ t :: post)[i]? = some e := by
  induction pre generalizing i with
  | nil =>
      cases i with
      | zero => exact .inl ⟨rfl, (Option.some.inj h).symm⟩
      | succ i => exact .inr h
  | cons x pre ih =>
      cases i with
      | zero => exact .inr h
      | succ i => exact (ih h).imp_left fun ⟨hi, he⟩ => ⟨congrArg Nat.succ hi, he⟩

/-- Rewriting brings **no two members with one name** into a map. -/
theorem Rewrites.namesApart {f : Form} {t t' : Tree} (h : Rewrites f t t') (ht : NamesApart f t) :
    NamesApart f t' := by
  induction h with
  | permute hperm =>
      obtain ⟨hself, hms⟩ := namesApart_object_iff.1 ht
      exact namesApart_object_iff.2
        ⟨fun g hg => (hself g hg).perm hperm, fun m hm => hms m (hperm.mem_iff.2 hm)⟩
  | @add f pre post m hunknown =>
      obtain ⟨-, hms⟩ := namesApart_object_iff.1 ht
      refine namesApart_object_iff.2 ⟨?_, fun n hn => ?_⟩
      · -- only maps ask for names apart, and no key is unknown to a map
        rintro g rfl
        obtain ⟨fields, name, hf, -⟩ := hunknown
        cases hf
      · rcases List.mem_append.1 hn with hn | hn
        · exact hms n (List.mem_append_left _ hn)
        · rcases List.mem_cons.1 hn with rfl | hn
          · rw [Form.member_of_unknown hunknown]
            exact namesApart_plain _
          · exact hms n (List.mem_append_right _ hn)
  | @drop f pre post m hunknown =>
      obtain ⟨hself, hms⟩ := namesApart_object_iff.1 ht
      have hsublist : (pre ++ post).Sublist (pre ++ m :: post) :=
        (List.sublist_cons_self m post).append_left pre
      exact namesApart_object_iff.2
        ⟨fun g hg => (hself g hg).sublist (hsublist.map _), fun n hn => hms n (hsublist.mem hn)⟩
  | @member f pre post key t t' _ ih =>
      obtain ⟨hself, hms⟩ := namesApart_object_iff.1 ht
      refine namesApart_object_iff.2 ⟨fun g hg => (hself g hg).replace t', fun n hn => ?_⟩
      rcases List.mem_append.1 hn with hn | hn
      · exact hms n (List.mem_append_left _ hn)
      · rcases List.mem_cons.1 hn with rfl | hn
        · exact ih (hms (key, t) (List.mem_append_right _ List.mem_cons_self))
        · exact hms n (List.mem_append_right _ (List.mem_cons_of_mem _ hn))
  | @element f pre post t t' _ ih =>
      have hes := namesApart_list_iff.1 ht
      refine namesApart_list_iff.2 fun i e he => ?_
      rcases @getElem?_replace pre post t t' e i he with ⟨rfl, rfl⟩ | he
      · exact ih (hes _ t (by simp))
      · exact hes i e he

/-! ### What a value is read as -/

/-- What a value is read as **does not change** when the value is rewritten. -/
def Kept (f : Form) (R : Tree → α → Prop) : Prop :=
  ∀ ⦃t t' : Tree⦄ ⦃a : α⦄, Rewrites f t t' → NamesApart f t → R t a → R t' a

/-- Nor does it change in many steps. -/
theorem Kept.of_reflTransGen {f : Form} {R : Tree → α → Prop} (h : Kept f R) {t t' : Tree} {a : α}
    (hrewrites : Relation.ReflTransGen (Rewrites f) t t') (ht : NamesApart f t) (ha : R t a) :
    R t' a := by
  have hboth : NamesApart f t' ∧ R t' a := by
    induction hrewrites with
    | refl => exact ⟨ht, ha⟩
    | tail _ hstep ih => exact ⟨hstep.namesApart ih.1, h hstep ih.1 ih.2⟩
  exact hboth.2

/-- What relates a list to another still does when an element was replaced that is related to the
same. -/
theorem forall₂_replace {β γ : Type} {S : β → γ → Prop} {pre post : List β} {x y : β} {cs : List γ}
    (h : ∀ c, S x c → S y c) (hall : List.Forall₂ S (pre ++ x :: post) cs) :
    List.Forall₂ S (pre ++ y :: post) cs := by
  induction pre generalizing cs with
  | nil =>
      cases hall with
      | cons hx hpost => exact .cons (h _ hx) hpost
  | cons z pre ih =>
      cases hall with
      | cons hz hrest => exact .cons hz (ih hrest)

/-- What stands in a list is related to something in a related list. -/
theorem exists_mem_of_forall₂ {β γ : Type*} {S : β → γ → Prop} {bs : List β} {cs : List γ}
    (h : List.Forall₂ S bs cs) {c : γ} (hc : c ∈ cs) : ∃ b ∈ bs, S b c := by
  induction h with
  | nil => cases hc
  | cons hb _ ih =>
      rcases List.mem_cons.1 hc with rfl | hc
      · exact ⟨_, List.mem_cons_self, hb⟩
      · obtain ⟨b, hmem, hS⟩ := ih hc
        exact ⟨b, List.mem_cons_of_mem _ hmem, hS⟩

/-- What a joined list is related to is joined, too. -/
theorem exists_append_of_forall₂ {β γ : Type} {S : β → γ → Prop} {pre post : List β} {cs : List γ}
    (h : List.Forall₂ S (pre ++ post) cs) :
    ∃ front back, cs = front ++ back ∧ List.Forall₂ S pre front ∧ List.Forall₂ S post back := by
  induction pre generalizing cs with
  | nil => exact ⟨[], cs, rfl, .nil, h⟩
  | cons x pre ih =>
      cases h with
      | cons hx hrest =>
          obtain ⟨front, back, rfl, hfront, hback⟩ := ih hrest
          exact ⟨_ :: front, back, rfl, .cons hx hfront, hback⟩

/-- Texts are not rewritten. -/
theorem kept_text (f : Form) : Kept f IsText := by
  rintro t t' s h - ⟨content, rfl, -⟩
  cases h

/-- Nor are truth values. -/
theorem kept_boolean (f : Form) : Kept f IsBoolean := by
  rintro t t' b h - rfl
  cases h

/-- Null is not rewritten, and no value is rewritten to null. -/
theorem kept_nullOr {f : Form} {R : Tree → α → Prop} (h : Kept f R) (blank : α) :
    Kept f (NullOr blank R) := by
  intro t t' a hrewrites ht ha
  have hkept : R t a → R t' a := h hrewrites ht
  cases hrewrites with
  | permute => exact hkept ha
  | add => exact hkept ha
  | drop => exact hkept ha
  | member => exact hkept ha
  | element => exact hkept ha

/-- A value that is there. -/
theorem kept_some {f : Form} {R : Tree → α → Prop} (h : Kept f R) :
    Kept f fun t o => ∃ a, R t a ∧ o = some a := by
  rintro t t' o hrewrites ht ⟨a, ha, ho⟩
  exact ⟨a, h hrewrites ht ha, ho⟩

/-- A list of plain values. -/
theorem kept_list {R : Tree → α → Prop} (h : Kept .plain R) : Kept .plain (IsList R) := by
  rintro t t' as hrewrites - ⟨es, rfl, hes⟩
  cases hrewrites with
  | element hstep =>
      exact ⟨_, rfl, forall₂_replace (fun a ha => h hstep (namesApart_plain _) ha) hes⟩

/-! ### Records -/

/-- The fields of a record have the **names and forms** that a form gives them: what a field is
read as is kept. -/
def FieldsKept (slots : List (Slot σ)) (fields : List (List String × Form)) : Prop :=
  List.Forall₂ (fun a field => field.1 = a.names ∧ Kept field.2 a.Shape) slots fields

/-- What a record that is an object has in each field. -/
theorem isRecord_object_iff_forall {slots : List (Slot σ)} {ms : List (List Piece × Tree)} {d : σ} :
    IsRecord slots (.object ms) d ↔ ∃ entries, Keyed ms entries ∧
      ∀ a ∈ slots, ∃ value : Option Tree, (a.entriesOf entries).map (·.2) = value.toList ∧
        Given a.blank a.Shape value (a.get d) := by
  constructor
  · rintro ⟨values, ⟨_, entries, hms, hkeyed, hgives⟩ | ⟨es, hes, -⟩, hgiven⟩
    · cases hms
      rw [List.forall₂_map_left_iff] at hgives
      exact ⟨entries, hkeyed, forall_exists_iff.2 ⟨values, hgives, hgiven⟩⟩
    · cases hes
  · rintro ⟨entries, hkeyed, hslots⟩
    obtain ⟨values, hgives, hgiven⟩ := forall_exists_iff.1 hslots
    exact ⟨values, .inl ⟨ms, entries, rfl, hkeyed, List.forall₂_map_left_iff.2 hgives⟩, hgiven⟩

/-- What holds of every field and its form **holds of a field and the form of the value under its
name**. -/
theorem of_form_member {Q : Slot σ → Form → Prop} {slots : List (Slot σ)}
    {fields : List (List String × Form)}
    (h : List.Forall₂ (fun a field => field.1 = a.names ∧ Q a field.2) slots fields)
    (hapart : slots.Pairwise Slot.Apart) {a : Slot σ} (ha : a ∈ slots) {key : List Piece}
    {name : String} (hmeans : Means key name) (hname : name ∈ a.names) :
    Q a ((Form.record fields).member key) := by
  have hfind : ∃ f, (fields.find? fun field => name ∈ field.1).map (·.2) = some f ∧ Q a f := by
    induction h with
    | nil => cases ha
    | @cons b field slots fields hfield _ ih =>
        obtain ⟨hbehind, hslots⟩ := List.pairwise_cons.1 hapart
        rcases List.mem_cons.1 ha with rfl | ha
        · refine ⟨field.2, ?_, hfield.2⟩
          rw [List.find?_cons_of_pos (by simpa [hfield.1] using hname)]
          rfl
        · have hother : name ∉ b.names := fun hb => (hbehind a ha).names name hb hname
          rw [List.find?_cons_of_neg (by simpa [hfield.1] using hother)]
          exact ih hslots ha
  obtain ⟨f, hf, hQ⟩ := hfind
  rw [Form.member_record hmeans, hf]
  exact hQ

/-- So does it of a field and the form of the value **at its place** in a list. -/
theorem of_form_element {Q : Slot σ → Form → Prop} {slots : List (Slot σ)}
    {fields : List (List String × Form)}
    (h : List.Forall₂ (fun a field => field.1 = a.names ∧ Q a field.2) slots fields) {a : Slot σ}
    {i : Nat} (ha : slots[i]? = some a) : Q a ((Form.record fields).element i) := by
  induction h generalizing i with
  | nil => cases ha
  | cons hfield _ ih =>
      cases i with
      | zero =>
          obtain rfl := Option.some.inj ha
          exact hfield.2
      | succ i => exact ih ha

/-- The value under a name of a field is kept as the field's. -/
theorem FieldsKept.kept_member {slots : List (Slot σ)} {fields : List (List String × Form)}
    (h : FieldsKept slots fields) (hapart : slots.Pairwise Slot.Apart) {a : Slot σ} (ha : a ∈ slots)
    {key : List Piece} {name : String} (hmeans : Means key name) (hname : name ∈ a.names) :
    Kept ((Form.record fields).member key) a.Shape :=
  of_form_member (Q := fun a f => Kept f a.Shape) h hapart ha hmeans hname

/-- So is the value at its place. -/
theorem FieldsKept.kept_element {slots : List (Slot σ)} {fields : List (List String × Form)}
    (h : FieldsKept slots fields) {a : Slot σ} {i : Nat} (ha : slots[i]? = some a) :
    Kept ((Form.record fields).element i) a.Shape :=
  of_form_element (Q := fun a f => Kept f a.Shape) h ha

/-- An unknown key is no name of a field. -/
theorem FieldsKept.notMem_names {slots : List (Slot σ)} {fields : List (List String × Form)}
    (h : FieldsKept slots fields) {name : String} (hname : ∀ field ∈ fields, name ∉ field.1)
    {a : Slot σ} (ha : a ∈ slots) : name ∉ a.names := by
  induction h with
  | nil => cases ha
  | cons hfield _ ih =>
      obtain ⟨hfirst, hrest⟩ := List.forall_mem_cons.1 hname
      rcases List.mem_cons.1 ha with rfl | ha
      · exact hfield.1 ▸ hfirst
      · exact ih hrest ha

/-- A member under a name of a field gives for it what it does. -/
theorem Slot.entriesOf_append_cons_of_mem {a : Slot σ} {name : String} (h : name ∈ a.names)
    (front back : List (String × Tree)) (t : Tree) :
    a.entriesOf (front ++ (name, t) :: back) =
      a.entriesOf front ++ (name, t) :: a.entriesOf back := by
  rw [entriesOf, List.filter_append, List.filter_cons_of_pos (by simpa using h)]
  rfl

/-- A member that is no field's gives nothing for it. -/
theorem Slot.entriesOf_append_cons {a : Slot σ} {name : String} (h : name ∉ a.names)
    (front back : List (String × Tree)) (t : Tree) :
    a.entriesOf (front ++ (name, t) :: back) = a.entriesOf (front ++ back) := by
  rw [entriesOf, entriesOf, List.filter_append, List.filter_append,
    List.filter_cons_of_neg (by simpa using h)]

/-- What a field has that is **given by a member**: what the member is read as, if nothing else is
given for it. -/
theorem Slot.given_append_cons_iff {a : Slot σ} {name : String} (h : name ∈ a.names)
    {front back : List (String × Tree)} {t : Tree} {d : σ} :
    (∃ value : Option Tree,
        (a.entriesOf (front ++ (name, t) :: back)).map (·.2) = value.toList ∧
          Given a.blank a.Shape value (a.get d)) ↔
      a.entriesOf (front ++ back) = [] ∧ a.Reading t (a.get d) := by
  have hrest : a.entriesOf (front ++ back) = a.entriesOf front ++ a.entriesOf back :=
    List.filter_append _ _
  rw [entriesOf_append_cons_of_mem h, List.map_append, List.map_cons, hrest, List.append_eq_nil_iff]
  constructor
  · rintro ⟨value, hvalue, hgiven⟩
    cases value with
    | none => simp at hvalue
    | some u =>
        obtain ⟨hfront, rfl, hback⟩ : a.entriesOf front = [] ∧ t = u ∧ a.entriesOf back = [] := by
          simpa [List.append_eq_singleton_iff] using hvalue
        exact ⟨⟨hfront, hback⟩, hgiven⟩
  · rintro ⟨⟨hfront, hback⟩, hread⟩
    exact ⟨some t, by rw [hfront, hback]; rfl, hread⟩

/-- The keys of a record stand for texts. -/
theorem exists_means_of_isRecord {slots : List (Slot σ)} {ms : List (List Piece × Tree)} {d : σ}
    (hd : IsRecord slots (.object ms) d) {m : List Piece × Tree} (hm : m ∈ ms) :
    ∃ name, Means m.1 name := by
  obtain ⟨entries, hkeyed, -⟩ := isRecord_object_iff_forall.1 hd
  obtain ⟨pre, post, rfl⟩ := List.append_of_mem hm
  obtain ⟨_, _, -, -, hback⟩ := exists_append_of_forall₂ hkeyed
  obtain ⟨e, _, hmeans, -, -⟩ := List.forall₂_cons_left_iff.1 hback
  exact ⟨e.1, hmeans.1⟩

/-- The entries of members of which one is singled out. -/
theorem keyed_append_cons_iff {pre post : List (List Piece × Tree)} {key : List Piece}
    {name : String} {t : Tree} (hmeans : Means key name) {entries : List (String × Tree)} :
    Keyed (pre ++ (key, t) :: post) entries ↔
      ∃ front back, entries = front ++ (name, t) :: back ∧ Keyed pre front ∧ Keyed post back := by
  constructor
  · intro hkeyed
    obtain ⟨front, back, rfl, hfront, hback⟩ := exists_append_of_forall₂ hkeyed
    obtain ⟨⟨name', u⟩, back, hm, hpost, rfl⟩ := List.forall₂_cons_left_iff.1 hback
    obtain rfl := hmeans.unique hm.1
    obtain rfl : u = t := hm.2
    exact ⟨front, back, rfl, hfront, hpost⟩
  · rintro ⟨front, back, rfl, hfront, hback⟩
    exact List.rel_append hfront (.cons ⟨hmeans, rfl⟩ hback)

/-- A field that the members of an object name has **what the member is read as**. -/
theorem reading_of_isRecord_object {slots : List (Slot σ)} {pre post : List (List Piece × Tree)}
    {key : List Piece} {name : String} {t : Tree} {d : σ} (hmeans : Means key name)
    (hd : IsRecord slots (.object (pre ++ (key, t) :: post)) d) {a : Slot σ} (ha : a ∈ slots)
    (hname : name ∈ a.names) : a.Reading t (a.get d) := by
  obtain ⟨entries, hkeyed, hall⟩ := isRecord_object_iff_forall.1 hd
  obtain ⟨front, back, rfl, -, -⟩ := (keyed_append_cons_iff hmeans).1 hkeyed
  exact ((Slot.given_append_cons_iff hname).1 (hall a ha)).2

/-- A record in which **the value of a member is replaced** by one that is read as the same. -/
theorem IsRecord.replace_member {slots : List (Slot σ)} {pre post : List (List Piece × Tree)}
    {key : List Piece} {name : String} {t t' : Tree} {d : σ} (hmeans : Means key name)
    (h : ∀ a ∈ slots, name ∈ a.names → a.Reading t (a.get d) → a.Reading t' (a.get d))
    (hd : IsRecord slots (.object (pre ++ (key, t) :: post)) d) :
    IsRecord slots (.object (pre ++ (key, t') :: post)) d := by
  obtain ⟨entries, hkeyed, hall⟩ := isRecord_object_iff_forall.1 hd
  obtain ⟨front, back, rfl, hfront, hback⟩ := (keyed_append_cons_iff hmeans).1 hkeyed
  refine isRecord_object_iff_forall.2 ⟨front ++ (name, t') :: back,
    (keyed_append_cons_iff hmeans).2 ⟨front, back, rfl, hfront, hback⟩, fun a ha => ?_⟩
  by_cases hname : name ∈ a.names
  · obtain ⟨hrest, hread⟩ := (Slot.given_append_cons_iff hname).1 (hall a ha)
    exact (Slot.given_append_cons_iff hname).2 ⟨hrest, h a ha hname hread⟩
  · rw [Slot.entriesOf_append_cons hname, ← Slot.entriesOf_append_cons hname front back t]
    exact hall a ha

/-- What stands at a place is related to what stands at the same place of a related list. -/
theorem exists_getElem?_of_forall₂ {β γ : Type*} {S : β → γ → Prop} {bs : List β}
    {front back : List γ} {x : γ} (h : List.Forall₂ S bs (front ++ x :: back)) :
    ∃ b, bs[front.length]? = some b ∧ S b x := by
  induction front generalizing bs with
  | nil =>
      obtain ⟨b, _, hb, -, rfl⟩ := List.forall₂_cons_right_iff.1 h
      exact ⟨b, rfl, hb⟩
  | cons z front ih =>
      obtain ⟨_, _, -, hrest, rfl⟩ := List.forall₂_cons_right_iff.1 h
      exact ih hrest

/-- A related list is still related when an element is replaced by one that is related to what
stands at its place. -/
theorem forall₂_replace_right {β γ : Type*} {S : β → γ → Prop} {bs : List β}
    {front back : List γ} {x y : γ} (h : ∀ b, bs[front.length]? = some b → S b x → S b y)
    (hall : List.Forall₂ S bs (front ++ x :: back)) : List.Forall₂ S bs (front ++ y :: back) := by
  induction front generalizing bs with
  | nil =>
      obtain ⟨b, _, hb, hback, rfl⟩ := List.forall₂_cons_right_iff.1 hall
      exact .cons (h b rfl hb) hback
  | cons z front ih =>
      obtain ⟨_, _, hz, hrest, rfl⟩ := List.forall₂_cons_right_iff.1 hall
      exact .cons hz (ih h hrest)

/-- What the elements of a list give for fields, of which one is singled out. -/
theorem isRecord_list_append_cons {slots : List (Slot σ)} {pre post : List Tree} {t : Tree}
    {d : σ} : IsRecord slots (.list (pre ++ t :: post)) d ↔
      (pre ++ t :: post).length ≤ slots.length ∧
        List.Forall₂ (fun a v => Given a.blank a.Shape v (a.get d)) slots
          (pre.map some ++ some t ::
            (post.map some ++ List.replicate (slots.length - (pre ++ t :: post).length) none)) := by
  have hlist : (pre ++ t :: post).map some = pre.map some ++ some t :: post.map some := by
    rw [List.map_append, List.map_cons]
  constructor
  · rintro ⟨values, ⟨ms, entries, hms, -⟩ | ⟨es, hes, hlength, rfl⟩, hgiven⟩
    · cases hms
    · cases hes
      rw [List.length_map] at hlength hgiven
      rw [hlist, List.append_assoc, List.cons_append] at hgiven
      exact ⟨hlength, hgiven⟩
  · rintro ⟨hlength, hgiven⟩
    refine ⟨_, .inr ⟨_, rfl, by rwa [List.length_map], rfl⟩, ?_⟩
    rw [hlist, List.length_map, List.append_assoc, List.cons_append]
    exact hgiven

/-- The field at a place has **what the element there is read as**. -/
theorem reading_of_isRecord_list {slots : List (Slot σ)} {pre post : List Tree} {t : Tree} {d : σ}
    (hd : IsRecord slots (.list (pre ++ t :: post)) d) :
    ∃ a, slots[pre.length]? = some a ∧ a.Reading t (a.get d) := by
  obtain ⟨a, ha, hgiven⟩ := exists_getElem?_of_forall₂ (isRecord_list_append_cons.1 hd).2
  rw [List.length_map] at ha
  exact ⟨a, ha, hgiven⟩

/-- A record in which **an element of a list is replaced** by one that is read as the same. -/
theorem IsRecord.replace_element {slots : List (Slot σ)} {pre post : List Tree} {t t' : Tree}
    {d : σ} (h : ∀ a, slots[pre.length]? = some a → a.Reading t (a.get d) → a.Reading t' (a.get d))
    (hd : IsRecord slots (.list (pre ++ t :: post)) d) :
    IsRecord slots (.list (pre ++ t' :: post)) d := by
  obtain ⟨hlength, hgiven⟩ := isRecord_list_append_cons.1 hd
  have hsame : (pre ++ t' :: post).length = (pre ++ t :: post).length := by
    rw [List.length_append, List.length_append, List.length_cons, List.length_cons]
  refine isRecord_list_append_cons.2 ⟨hsame ▸ hlength, ?_⟩
  rw [hsame]
  refine forall₂_replace_right (x := some t) (fun a ha hread => ?_) hgiven
  rw [List.length_map] at ha
  exact h a ha hread

/-- A value that is the only one is so in any order. -/
theorem eq_toList_of_perm {β : Type} {xs : List β} {o : Option β} (h : xs.Perm o.toList) :
    xs = o.toList := by
  cases o with
  | none => exact h.eq_nil
  | some x => exact List.perm_singleton.1 h

/-- A member under an **unknown key** makes no difference to a record. -/
theorem isRecord_object_append_cons_iff {slots : List (Slot σ)}
    {fields : List (List String × Form)} (hfields : FieldsKept slots fields)
    {pre post : List (List Piece × Tree)} {m : List Piece × Tree}
    (hunknown : (Form.record fields).Unknown m.1) {d : σ} :
    IsRecord slots (.object (pre ++ m :: post)) d ↔ IsRecord slots (.object (pre ++ post)) d := by
  obtain ⟨_, name, hf, hmeans, hname⟩ := hunknown
  cases hf
  have hsame {a : Slot σ} (ha : a ∈ slots) (front back : List (String × Tree)) :
      a.entriesOf (front ++ (name, m.2) :: back) = a.entriesOf (front ++ back) :=
    Slot.entriesOf_append_cons (hfields.notMem_names hname ha) front back m.2
  rw [isRecord_object_iff_forall, isRecord_object_iff_forall]
  constructor
  · rintro ⟨entries, hkeyed, hall⟩
    obtain ⟨front, back, rfl, hfront, hback⟩ := (keyed_append_cons_iff hmeans).1 hkeyed
    exact ⟨front ++ back, List.rel_append hfront hback, fun a ha => hsame ha front back ▸ hall a ha⟩
  · rintro ⟨entries, hkeyed, hall⟩
    obtain ⟨front, back, rfl, hfront, hback⟩ := exists_append_of_forall₂ hkeyed
    refine ⟨front ++ (name, m.2) :: back,
      (keyed_append_cons_iff hmeans).2 ⟨front, back, rfl, hfront, hback⟩, fun a ha => ?_⟩
    rw [hsame ha]
    exact hall a ha

/-- A **record** is read the same whatever the order of its members, and whatever stands in it
under unknown keys. -/
theorem kept_record {slots : List (Slot σ)} (hslots : Lawful slots)
    {fields : List (List String × Form)} (hfields : FieldsKept slots fields) :
    Kept (.record fields) (IsRecord slots) := by
  intro t t' d hrewrites ht hd
  cases hrewrites with
  | @permute _ ms ms' hperm =>
      obtain ⟨entries, hkeyed, hall⟩ := isRecord_object_iff_forall.1 hd
      obtain ⟨entries', hkeyed', hentries⟩ := List.perm_comp_forall₂ hperm.symm hkeyed
      refine isRecord_object_iff_forall.2 ⟨entries', hkeyed', fun a ha => ?_⟩
      obtain ⟨value, hvalue, hgiven⟩ := hall a ha
      exact ⟨value, eq_toList_of_perm (hvalue ▸ (hentries.filter _).map _), hgiven⟩
  | add hunknown => exact (isRecord_object_append_cons_iff hfields hunknown).2 hd
  | drop hunknown => exact (isRecord_object_append_cons_iff hfields hunknown).1 hd
  | @member _ pre post key t t' hstep =>
      obtain ⟨name, hmeans⟩ := exists_means_of_isRecord hd
        (List.mem_append_right _ List.mem_cons_self)
      have htree := (namesApart_object_iff.1 ht).2 (key, t)
        (List.mem_append_right _ List.mem_cons_self)
      refine hd.replace_member hmeans fun a ha hname hread => ?_
      exact kept_nullOr (hfields.kept_member hslots.apart ha hmeans hname) a.blank hstep htree hread
  | @element _ pre post t t' hstep =>
      have htree := namesApart_list_iff.1 ht pre.length t (by simp)
      refine hd.replace_element fun a ha hread => ?_
      exact kept_nullOr (hfields.kept_element ha) a.blank hstep htree hread

end Scaffold.Json
