import Mathlib.Data.List.Pairwise
import Scaffold.Proofs.Json.Reader

/-!
# Reading records

A record is read member by member into a state, fields that are not given keep their default,
and a field that is given twice is refused. Said of the record as a whole: each field is given
by one value at most, and has what that value is read as, or its default. A list gives the
fields by their places instead of their names.

The fields of a record are `Slot`s, which know how to get and put their values. The laws that
the slots of one record have to obey are those of independent places that make up the record.

## Main definitions

* `Slot` - a field with its shape and its place in the record.
* `Lawful` - the slots make up the record and are independent.
* `Gives` - the values that a tree gives for fields, by name or by place.
* `Given` - what a field has that is given by a value, or not given.

## Main results

* `folded_iff` - the members of an object, read in turn.
* `placed_iff` - the elements of a list, read in turn.
* `reads_record` - reading a record.
-/

namespace Scaffold.Json

open Scaffold.Json.Tree (memberTokens)

/-- A **field of a record**: its names, its default and shape, and its place. -/
structure Slot (σ : Type) where
  /-- What the field has for a value. -/
  Value : Type
  /-- The name of the field. -/
  name : String
  /-- Other names for it. -/
  aliases : List String
  /-- The value where none is given, or null is. -/
  blank : Value
  /-- Reads the value. -/
  read : Reader Value
  /-- The shape of the value. -/
  Shape : Tree → Value → Prop
  /-- The field's value in a record. -/
  get : σ → Value
  /-- A record with another value in the field. -/
  put : σ → Value → σ

variable {σ : Type}

namespace Slot

/-- All names of a field. -/
def names (a : Slot σ) : List String :=
  a.name :: a.aliases

/-- What the field reads: its shape, or null for its default. -/
def Reading (a : Slot σ) : Tree → a.Value → Prop :=
  NullOr a.blank a.Shape

/-- The field as the reader of records knows it. -/
def field (a : Slot σ) : Field σ where
  name := a.name
  aliases := a.aliases
  read s ts := (orNull a.blank a.read ts).map fun (v, rest) => (a.put s v, rest)

/-- Two fields are **apart**: no name is common to both, and putting a value in one leaves the
other what it was. -/
structure Apart (a b : Slot σ) : Prop where
  /-- No name is common. -/
  names : ∀ key ∈ a.names, key ∉ b.names
  /-- The first is left alone by the second. -/
  left : ∀ s v, a.get (b.put s v) = a.get s
  /-- The second is left alone by the first. -/
  right : ∀ s v, b.get (a.put s v) = b.get s

/-- Being apart goes both ways. -/
instance : Std.Symm (Apart (σ := σ)) where
  symm _ _ h := ⟨fun key hb ha => h.names key ha hb, h.right, h.left⟩

end Slot

/-- The fields **make up the record**: each reads its shape, has what was put in it last, is
apart from the others, and records that have the same in all fields are the same. -/
structure Lawful (slots : List (Slot σ)) : Prop where
  /-- Every field reads its shape. -/
  reads : ∀ a ∈ slots, Reads a.read a.Shape
  /-- A field has what was put in it. -/
  get_put : ∀ a ∈ slots, ∀ s v, a.get (a.put s v) = v
  /-- The fields are apart. -/
  apart : slots.Pairwise Slot.Apart
  /-- The fields are all there is. -/
  ext : ∀ s s', (∀ a ∈ slots, a.get s = a.get s') → s = s'

/-- Different fields of a record are apart. -/
theorem Lawful.apart_of_ne {slots : List (Slot σ)} (h : Lawful slots) {a b : Slot σ}
    (ha : a ∈ slots) (hb : b ∈ slots) (hne : a ≠ b) : a.Apart b :=
  List.Pairwise.forall h.apart ha hb hne

/-- A field's reader reads the field's value into the record. -/
theorem Lawful.reads_field {slots : List (Slot σ)} (h : Lawful slots) {a : Slot σ}
    (ha : a ∈ slots) (s : σ) :
    Reads (a.field.read s) (fun t s' => ∃ v, a.Reading t v ∧ s' = a.put s v) :=
  reads_map (reads_orNull (h.reads a ha)) (a.put s)

/-! ### Objects -/

/-- What a member makes of a record and the names of the fields seen before: a member that is
no field's changes nothing, and a field may be given once. -/
def Takes (slots : List (Slot σ)) (s : σ × List String) (key : String) (t : Tree)
    (s' : σ × List String) : Prop :=
  match slots.find? (fun a => key ∈ a.names) with
  | none => s' = s
  | some a => a.name ∉ s.2 ∧ ∃ v, a.Reading t v ∧ s' = (a.put s.1 v, a.name :: s.2)

/-- A field accepts its names. -/
theorem Slot.accepts_field (a : Slot σ) (key : String) :
    a.field.accepts key = decide (key ∈ a.names) := by
  rw [Field.accepts, Slot.names, field, Bool.eq_iff_iff, decide_eq_true_iff, List.mem_cons,
    Bool.or_eq_true, beq_iff_eq, List.contains_iff_mem]

/-- Reading a member of a record. -/
theorem Lawful.readsMember {slots : List (Slot σ)} (h : Lawful slots) :
    ReadsMember (readerFor (slots.map Slot.field)) (Takes slots) := by
  intro s key ts s' rest
  have hfind : (slots.map Slot.field).find? (·.accepts key)
      = (slots.find? fun a => key ∈ a.names).map Slot.field := by
    rw [List.find?_map]
    congr 2
    funext a
    exact a.accepts_field key
  unfold Takes
  rw [readerFor, hfind]
  cases hslot : slots.find? fun a => key ∈ a.names with
  | none => exact reads_skip s ts s' rest
  | some a =>
      have ha : a ∈ slots := List.mem_of_find?_eq_some hslot
      have hread := reads_map (h.reads_field ha s.1) (fun r => (r, a.name :: s.2)) ts s' rest
      dsimp only [Option.map_some]
      by_cases hseen : a.name ∈ s.2
      · have hcontains : s.2.contains a.field.name = true := List.contains_iff_mem.2 hseen
        rw [if_pos hcontains]
        constructor
        · exact nofun
        · rintro ⟨t, -, hnew, -⟩
          exact absurd hseen hnew
      · have hcontains : ¬ s.2.contains a.field.name = true := mt List.contains_iff_mem.1 hseen
        rw [if_neg hcontains]
        refine hread.trans ?_
        constructor
        · rintro ⟨t, hts, _, ⟨v, hv, rfl⟩, hs⟩
          exact ⟨t, hts, hseen, v, hv, hs⟩
        · rintro ⟨t, hts, -, v, hv, hs⟩
          exact ⟨t, hts, _, ⟨v, hv, rfl⟩, hs⟩

/-- The members under a field's names. -/
def Slot.entriesOf (a : Slot σ) (entries : List (String × Tree)) : List (String × Tree) :=
  entries.filter fun e => e.1 ∈ a.names

/-- What a field has **in the end**, if members are still to be read and the fields seen before
are known: what it has now if none of the members is the field's, and what the member is read
as if one is and the field was not seen before. -/
def Slot.Due (a : Slot σ) (s : σ) (seen : List String) (entries : List (String × Tree))
    (d : σ) : Prop :=
  match a.entriesOf entries with
  | [] => a.get d = a.get s
  | [e] => a.name ∉ seen ∧ a.Reading e.2 (a.get d)
  | _ => False

/-- A member that is not the field's changes nothing for it. -/
theorem Slot.due_cons_of_notMem {a : Slot σ} {s d : σ} {seen : List String} {key : String}
    {t : Tree} {entries : List (String × Tree)} (h : key ∉ a.names) :
    a.Due s seen ((key, t) :: entries) d ↔ a.Due s seen entries d := by
  have hentries : a.entriesOf ((key, t) :: entries) = a.entriesOf entries := by
    rw [entriesOf, List.filter_cons_of_neg (by simpa using h), entriesOf]
  rw [Due, hentries, Due]

/-- A member that is the field's is the only one, and the field was not seen before. -/
theorem Slot.due_cons_of_mem {a : Slot σ} {s d : σ} {seen : List String} {key : String}
    {t : Tree} {entries : List (String × Tree)} (h : key ∈ a.names) :
    a.Due s seen ((key, t) :: entries) d ↔
      a.entriesOf entries = [] ∧ a.name ∉ seen ∧ a.Reading t (a.get d) := by
  have hentries : a.entriesOf ((key, t) :: entries) = (key, t) :: a.entriesOf entries := by
    rw [entriesOf, List.filter_cons_of_pos (by simpa using h), entriesOf]
  rw [Due, hentries]
  cases hmore : a.entriesOf entries with
  | nil =>
      constructor
      · exact fun h => ⟨rfl, h⟩
      · exact fun h => h.2
  | cons e es =>
      constructor
      · exact False.elim
      · rintro ⟨hnil, -⟩
        cases hnil

/-- A field that has just been put into a record is due that, and nothing from later members. -/
theorem Lawful.due_put_self {slots : List (Slot σ)} (h : Lawful slots) {b : Slot σ}
    (hb : b ∈ slots) {s d : σ} {seen : List String} {entries : List (String × Tree)} (v : b.Value) :
    b.Due (b.put s v) (b.name :: seen) entries d ↔ b.entriesOf entries = [] ∧ b.get d = v := by
  rw [Slot.Due, h.get_put b hb]
  cases b.entriesOf entries with
  | nil => exact ⟨fun h => ⟨rfl, h⟩, fun h => h.2⟩
  | cons e es =>
      cases es with
      | nil => exact ⟨fun h => absurd List.mem_cons_self h.1, fun h => nomatch h.1⟩
      | cons e' es => exact ⟨False.elim, fun h => nomatch h.1⟩

/-- Every other field is left alone. -/
theorem Lawful.due_put_other {slots : List (Slot σ)} (h : Lawful slots) {a b : Slot σ}
    (ha : a ∈ slots) (hb : b ∈ slots) (hne : a ≠ b) {s d : σ} {seen : List String}
    {entries : List (String × Tree)} {key : String} (hkey : key ∈ b.names) (t : Tree)
    (v : b.Value) :
    a.Due (b.put s v) (b.name :: seen) entries d ↔ a.Due s seen ((key, t) :: entries) d := by
  have hapart := h.apart_of_ne ha hb hne
  have hname : a.name ≠ b.name := fun heq =>
    hapart.names a.name List.mem_cons_self (heq ▸ List.mem_cons_self)
  have hnotMem : key ∉ a.names := fun hmem => hapart.names key hmem hkey
  rw [Slot.due_cons_of_notMem hnotMem, Slot.Due, Slot.Due, hapart.left, List.mem_cons, not_or]
  simp only [hname, not_false_eq_true, true_and]

/-- **One member passes on what the fields are due**: what they are due once it has been read is
what they were due of it and the later ones. -/
theorem Lawful.takes_due_iff {slots : List (Slot σ)} (h : Lawful slots) {s d : σ}
    {seen : List String} {key : String} {t : Tree} {entries : List (String × Tree)} :
    (∃ s', Takes slots (s, seen) key t s' ∧ ∀ a ∈ slots, a.Due s'.1 s'.2 entries d) ↔
      ∀ a ∈ slots, a.Due s seen ((key, t) :: entries) d := by
  unfold Takes
  cases hslot : slots.find? fun a => key ∈ a.names with
  | none =>
      have hother : ∀ a ∈ slots, key ∉ a.names := by
        intro a ha
        simpa using List.find?_eq_none.1 hslot a ha
      constructor
      · rintro ⟨s', rfl, hdue⟩ a ha
        exact (Slot.due_cons_of_notMem (hother a ha)).2 (hdue a ha)
      · intro hdue
        exact ⟨_, rfl, fun a ha => (Slot.due_cons_of_notMem (hother a ha)).1 (hdue a ha)⟩
  | some b =>
      have hb : b ∈ slots := List.mem_of_find?_eq_some hslot
      have hkey : key ∈ b.names := by simpa using List.find?_some hslot
      constructor
      · rintro ⟨_, ⟨hnew, v, hv, rfl⟩, hdue⟩ a ha
        obtain ⟨hrest, rfl⟩ := (h.due_put_self hb v).1 (hdue b hb)
        by_cases hne : a = b
        · subst hne
          exact (Slot.due_cons_of_mem hkey).2 ⟨hrest, hnew, hv⟩
        · exact (h.due_put_other ha hb hne hkey t _).1 (hdue a ha)
      · intro hdue
        obtain ⟨hrest, hnew, hv⟩ := (Slot.due_cons_of_mem hkey).1 (hdue b hb)
        refine ⟨_, ⟨hnew, b.get d, hv, rfl⟩, fun a ha => ?_⟩
        by_cases hne : a = b
        · subst hne
          exact (h.due_put_self hb _).2 ⟨hrest, rfl⟩
        · exact (h.due_put_other ha hb hne hkey t _).2 (hdue a ha)

/-- The members of an object, **read in turn**, give a record exactly if every field has in the
end what it is due. -/
theorem folded_iff {slots : List (Slot σ)} (h : Lawful slots) {s d : σ} {seen : List String}
    {entries : List (String × Tree)} :
    (∃ seen', Folded (Takes slots) (s, seen) entries (d, seen')) ↔
      ∀ a ∈ slots, a.Due s seen entries d := by
  induction entries generalizing s seen with
  | nil =>
      constructor
      · rintro ⟨seen', hfold⟩ a _
        cases hfold
        rfl
      · intro hdue
        obtain rfl : d = s := h.ext d s hdue
        exact ⟨seen, .nil⟩
  | cons entry entries ih =>
      obtain ⟨key, t⟩ := entry
      rw [← h.takes_due_iff]
      constructor
      · rintro ⟨seen', hfold⟩
        cases hfold with
        | cons htakes hfold => exact ⟨_, htakes, ih.1 ⟨seen', hfold⟩⟩
      · rintro ⟨s', htakes, hdue⟩
        obtain ⟨seen', hfold⟩ := ih.2 hdue
        exact ⟨seen', .cons htakes hfold⟩

/-! ### Lists -/

/-- What the elements of a list make of a record: each gives the field at its place, and
there are no more of them than fields. -/
def Placed (slots : List (Slot σ)) (es : List Tree) (s d : σ) : Prop :=
  match slots, es with
  | _, [] => d = s
  | [], _ :: _ => False
  | a :: slots, e :: es => ∃ v, a.Reading e v ∧ Placed slots es (a.put s v) d

/-- The end of a list that gives every field. -/
theorem listEnd_eq_ok_iff {s d : σ} {ts rest : List Token} :
    listEnd s ts = .ok (d, rest) ↔ ts = .closeList :: rest ∧ d = s := by
  constructor
  · intro h
    unfold listEnd at h
    split at h
    · cases h
    · cases h
      exact ⟨rfl, rfl⟩
    · cases h
    · cases h
  · rintro ⟨rfl, rfl⟩
    rfl

/-- What the fields are read from is the tokens of elements and the bracket. -/
theorem positional_inv {slots : List (Slot σ)}
    (h : ∀ a ∈ slots, ∀ s, Reads (a.field.read s) (fun t s' => ∃ v, a.Reading t v ∧ s' = a.put s v))
    {first : Bool} {s d : σ} {ts rest : List Token}
    (hread : positional (slots.map Slot.field) first s ts = .ok (d, rest)) :
    ∃ es, ts = rowsFrom first (es.map Tree.tokens) ++ .closeList :: rest ∧
      Placed slots es s d := by
  induction slots generalizing first s ts with
  | nil =>
      rw [List.map_nil, positional, listEnd_eq_ok_iff] at hread
      obtain ⟨rfl, rfl⟩ := hread
      exact ⟨[], by rw [List.map_nil, rowsFrom_nil]; rfl, rfl⟩
  | cons a slots ih =>
      obtain ⟨ha, hslots⟩ := List.forall_mem_cons.1 h
      have hfield : ∀ {ts : List Token},
          ((a.field.read s ts).bind fun x => positional (slots.map Slot.field) false x.1 x.2)
            = .ok (d, rest) →
          ∃ es, ts = rowsFrom true (es.map Tree.tokens) ++ .closeList :: rest ∧
            Placed (a :: slots) es s d := by
        intro ts hread
        obtain ⟨⟨s', more⟩, hvalue, hmore⟩ := bind_eq_ok_iff.1 hread
        obtain ⟨e, rfl, v, hv, rfl⟩ := (ha s ts s' more).1 hvalue
        obtain ⟨es, rfl, hes⟩ := ih hslots hmore
        refine ⟨e :: es, ?_, v, hv, hes⟩
        rw [List.map_cons, rowsFrom_true_cons, List.append_assoc]
      rw [List.map_cons] at hread
      unfold positional at hread
      split at hread
      · contradiction
      · cases hread
      · cases hread
        exact ⟨[], by rw [List.map_nil, rowsFrom_nil]; rfl, rfl⟩
      · next heq =>
        obtain ⟨rfl, rfl⟩ := List.cons.inj heq
        cases first with
        | true => exact hfield hread
        | false =>
            rw [if_neg Bool.false_ne_true] at hread
            split at hread
            · next hcomma =>
              split at hread
              · cases hread
              · cases hread
              · next hclose =>
                obtain ⟨es, rfl, hes⟩ := hfield hread
                cases es with
                | nil => exact (hclose rest rfl).elim
                | cons e es => exact ⟨e :: es, by rw [hcomma]; rfl, hes⟩
            · cases hread

/-- The first field is read where it stands. -/
theorem positional_first (f : Field σ) (fields : List (Field σ)) (s : σ) (t : Tree)
    (more : List Token) :
    positional (f :: fields) true s (t.tokens ++ more)
      = (f.read s (t.tokens ++ more)).bind fun (s, rest) => positional fields false s rest := by
  obtain ⟨k, ks, hhead, hclose, -⟩ := t.exists_head
  rw [hhead, List.cons_append, positional.eq_def]
  cases k with
  | closeList => contradiction
  | _ => rfl

/-- Every further field is read behind its comma. -/
theorem positional_comma (f : Field σ) (fields : List (Field σ)) (s : σ) (t : Tree)
    (more : List Token) :
    positional (f :: fields) false s (.comma :: (t.tokens ++ more))
      = (f.read s (t.tokens ++ more)).bind fun (s, rest) => positional fields false s rest := by
  obtain ⟨k, ks, hhead, hclose, -⟩ := t.exists_head
  rw [hhead, List.cons_append, positional.eq_def]
  cases k with
  | closeList => contradiction
  | _ => rfl

/-- Elements that give fields by their places are read up to the bracket. -/
theorem positional_rows {slots : List (Slot σ)}
    (h : ∀ a ∈ slots, ∀ s, Reads (a.field.read s) (fun t s' => ∃ v, a.Reading t v ∧ s' = a.put s v))
    {es : List Tree} {s d : σ} (hes : Placed slots es s d) (first : Bool) (rest : List Token) :
    positional (slots.map Slot.field) first s
        (rowsFrom first (es.map Tree.tokens) ++ .closeList :: rest) = .ok (d, rest) := by
  induction slots generalizing es s first with
  | nil =>
      cases es with
      | nil =>
          obtain rfl : d = s := hes
          rw [List.map_nil, List.map_nil, rowsFrom_nil, List.nil_append, positional]
          exact listEnd_eq_ok_iff.2 ⟨rfl, rfl⟩
      | cons e es => exact hes.elim
  | cons a slots ih =>
      obtain ⟨ha, hslots⟩ := List.forall_mem_cons.1 h
      cases es with
      | nil =>
          obtain rfl : d = s := hes
          rw [List.map_nil, rowsFrom_nil, List.nil_append, List.map_cons, positional.eq_def]
      | cons e es =>
          obtain ⟨v, hv, hmore⟩ := hes
          have hread := (ha s _ (a.put s v)
            (rowsFrom false (es.map Tree.tokens) ++ .closeList :: rest)).2 ⟨e, rfl, v, hv, rfl⟩
          cases first with
          | true =>
              rw [List.map_cons, List.map_cons, rowsFrom_true_cons, List.append_assoc,
                positional_first, hread]
              exact ih hslots hmore false
          | false =>
              rw [List.map_cons, List.map_cons, rowsFrom_false_cons, List.cons_append,
                List.append_assoc, positional_comma, hread]
              exact ih hslots hmore false

/-! ### Records as a whole -/

/-- What a field has that is **given by a value, or not given**: what the value is read as, or
its default, for which null stands too. -/
def Given {α : Type} (blank : α) (R : Tree → α → Prop) (value : Option Tree) (a : α) : Prop :=
  match value with
  | none => a = blank
  | some t => NullOr blank R t a

/-- The **values that a tree gives for fields** with these names. An object gives for a field
the value of the only member under one of its names, if there is one, and has no second; its
other members may be whatever they are. A list gives the fields in their order, and may leave
out the last ones. -/
def Gives (names : List (List String)) (t : Tree) (values : List (Option Tree)) : Prop :=
  (∃ ms entries, t = .object ms ∧ Keyed ms entries ∧
    List.Forall₂ (fun ns v => (entries.filter fun e => e.1 ∈ ns).map (·.2) = v.toList)
      names values) ∨
  (∃ es, t = .list es ∧ es.length ≤ names.length ∧
    values = es.map some ++ List.replicate (names.length - es.length) none)

/-- What a field has in the end if it is given by a value, and that it has what it had if it
is not given. -/
def Slot.GivenFrom (a : Slot σ) (s : σ) (d : σ) (value : Option Tree) : Prop :=
  match value with
  | none => a.get d = a.get s
  | some t => a.Reading t (a.get d)

/-- Fields that are not given have what they had. -/
theorem forall₂_givenFrom_none {slots : List (Slot σ)} {s d : σ} :
    List.Forall₂ (fun a v => a.GivenFrom s d v) slots (List.replicate slots.length none) ↔
      ∀ a ∈ slots, a.get d = a.get s := by
  induction slots with
  | nil => exact ⟨fun _ => nofun, fun _ => .nil⟩
  | cons a slots ih =>
      rw [List.length_cons, List.replicate_succ, List.forall₂_cons, ih, List.forall_mem_cons]
      exact Iff.rfl

/-- What is the same for every field is the same for the list of them. -/
theorem forall₂_congr_slots {slots : List (Slot σ)} {P Q : Slot σ → Option Tree → Prop}
    {values : List (Option Tree)} (h : ∀ a ∈ slots, ∀ v, P a v ↔ Q a v) :
    List.Forall₂ P slots values ↔ List.Forall₂ Q slots values := by
  induction slots generalizing values with
  | nil => rw [List.forall₂_nil_left_iff, List.forall₂_nil_left_iff]
  | cons a slots ih =>
      obtain ⟨ha, hslots⟩ := List.forall_mem_cons.1 h
      cases values with
      | nil => exact ⟨nofun, nofun⟩
      | cons v values => rw [List.forall₂_cons, List.forall₂_cons, ha, ih hslots]

/-- What a field has in the end does not depend on what is put in another. -/
theorem Slot.givenFrom_put {a b : Slot σ} (h : a.Apart b) (s d : σ) (v : a.Value)
    (w : Option Tree) : b.GivenFrom (a.put s v) d w ↔ b.GivenFrom s d w := by
  cases w with
  | none => rw [GivenFrom, h.right, GivenFrom]
  | some t => exact Iff.rfl

/-- A list without elements leaves every field what it is. -/
theorem placed_nil_iff {pre slots : List (Slot σ)} (h : Lawful (pre ++ slots)) {s d : σ} :
    Placed slots [] s d ↔ (∀ a ∈ pre, a.get d = a.get s) ∧ ∀ a ∈ slots, a.get d = a.get s := by
  rw [← List.forall_mem_append]
  unfold Placed
  exact ⟨fun hds => hds ▸ fun _ _ => rfl, h.ext d s⟩

/-- What stands in the fields before and behind one is the same after it was put. -/
theorem Lawful.put_middle_iff {pre slots : List (Slot σ)} {a : Slot σ}
    (h : Lawful (pre ++ a :: slots)) {s d : σ} {v : a.Value} {values : List (Option Tree)} :
    ((∀ b ∈ pre ++ [a], b.get d = b.get (a.put s v)) ∧
        List.Forall₂ (fun b w => b.GivenFrom (a.put s v) d w) slots values) ↔
      ((∀ b ∈ pre, b.get d = b.get s) ∧ a.get d = v) ∧
        List.Forall₂ (fun b w => b.GivenFrom s d w) slots values := by
  have ha : a ∈ pre ++ a :: slots := List.mem_append_right _ List.mem_cons_self
  obtain ⟨-, hslots, hacross⟩ := List.pairwise_append.1 h.apart
  have hbehind : ∀ b ∈ slots, a.Apart b := (List.pairwise_cons.1 hslots).1
  have hpre : (∀ b ∈ pre, b.get d = b.get (a.put s v)) ↔ ∀ b ∈ pre, b.get d = b.get s := by
    refine forall₂_congr fun b hb => ?_
    rw [(hacross b hb a List.mem_cons_self).left]
  rw [forall₂_congr_slots fun b hb w => Slot.givenFrom_put (hbehind b hb) s d v w,
    List.forall_mem_append, List.forall_mem_singleton, h.get_put a ha, hpre]

/-- The elements of a list, **read in turn**, give a record exactly if every field has in the
end what the element at its place gives. -/
theorem placed_iff (pre : List (Slot σ)) {slots : List (Slot σ)} (h : Lawful (pre ++ slots))
    {es : List Tree} {s d : σ} :
    Placed slots es s d ↔ es.length ≤ slots.length ∧ (∀ a ∈ pre, a.get d = a.get s) ∧
      List.Forall₂ (fun a v => a.GivenFrom s d v) slots
        (es.map some ++ List.replicate (slots.length - es.length) none) := by
  -- The fields of `pre` have been read already.
  induction es generalizing pre slots s with
  | nil =>
      rw [List.map_nil, List.nil_append, List.length_nil, Nat.sub_zero, forall₂_givenFrom_none,
        placed_nil_iff h]
      exact ⟨fun hsame => ⟨Nat.zero_le _, hsame⟩, fun hsame => hsame.2⟩
  | cons e es ih =>
      cases slots with
      | nil => exact ⟨False.elim, fun hlength => absurd hlength.1 (Nat.not_succ_le_zero _)⟩
      | cons a slots =>
          have hplaced (v : a.Value) :=
            ih (pre ++ [a]) (s := a.put s v) (List.append_cons pre a slots ▸ h)
          simp only [h.put_middle_iff] at hplaced
          rw [List.length_cons, List.length_cons, Nat.add_le_add_iff_right, List.map_cons,
            List.cons_append, Nat.add_sub_add_right, List.forall₂_cons]
          constructor
          · rintro ⟨v, hv, hmore⟩
            obtain ⟨hlength, ⟨hpre, rfl⟩, hvalues⟩ := (hplaced v).1 hmore
            exact ⟨hlength, hpre, hv, hvalues⟩
          · rintro ⟨hlength, hpre, hv, hvalues⟩
            exact ⟨a.get d, hv, (hplaced _).2 ⟨hlength, ⟨hpre, rfl⟩, hvalues⟩⟩

/-- What a field has that is given by a value, or has its default. -/
theorem Slot.givenFrom_iff {a : Slot σ} {s d : σ} {value : Option Tree}
    (h : a.get s = a.blank) :
    a.GivenFrom s d value ↔ Given a.blank a.Shape value (a.get d) := by
  cases value with
  | none => rw [GivenFrom, h, Given]
  | some t => exact Iff.rfl

/-- What the fields of a record have that starts from their defaults. -/
theorem forall₂_givenFrom_iff {slots : List (Slot σ)} {s d : σ} {values : List (Option Tree)}
    (hs : ∀ a ∈ slots, a.get s = a.blank) :
    List.Forall₂ (fun a v => a.GivenFrom s d v) slots values ↔
      List.Forall₂ (fun a v => Given a.blank a.Shape v (a.get d)) slots values :=
  forall₂_congr_slots fun a ha _ => Slot.givenFrom_iff (hs a ha)

/-- What a field is due from the start, by the value that the members give for it. -/
theorem Slot.due_iff {a : Slot σ} {s d : σ} {entries : List (String × Tree)} :
    a.Due s [] entries d ↔ ∃ value : Option Tree,
      (entries.filter fun e => e.1 ∈ a.names).map (·.2) = value.toList ∧
        a.GivenFrom s d value := by
  rw [Due]
  change _ ↔ ∃ value : Option Tree, (a.entriesOf entries).map (·.2) = value.toList ∧ _
  cases a.entriesOf entries with
  | nil =>
      constructor
      · exact fun h => ⟨none, rfl, h⟩
      · rintro ⟨_ | t, hvalue, h⟩
        · exact h
        · cases hvalue
  | cons e es =>
      cases es with
      | nil =>
          constructor
          · exact fun h => ⟨some e.2, rfl, h.2⟩
          · rintro ⟨_ | t, hvalue, h⟩
            · cases hvalue
            · obtain rfl : e.2 = t := (List.cons.inj hvalue).1
              exact ⟨nofun, h⟩
      | cons e' es =>
          constructor
          · exact False.elim
          · rintro ⟨_ | t, hvalue, -⟩
            · cases hvalue
            · cases hvalue

/-- Values that exist for every field make a list of them. -/
theorem forall_exists_iff {slots : List (Slot σ)} {P Q : Slot σ → Option Tree → Prop} :
    (∀ a ∈ slots, ∃ v, P a v ∧ Q a v) ↔
      ∃ values, List.Forall₂ P slots values ∧ List.Forall₂ Q slots values := by
  induction slots with
  | nil => exact ⟨fun _ => ⟨[], .nil, .nil⟩, fun _ => nofun⟩
  | cons a slots ih =>
      rw [List.forall_mem_cons, ih]
      constructor
      · rintro ⟨⟨v, hP, hQ⟩, values, hPs, hQs⟩
        exact ⟨v :: values, .cons hP hPs, .cons hQ hQs⟩
      · rintro ⟨_ | ⟨v, values⟩, hPs, hQs⟩
        · cases hPs
        · obtain ⟨hP, hPs⟩ := List.forall₂_cons.1 hPs
          obtain ⟨hQ, hQs⟩ := List.forall₂_cons.1 hQs
          exact ⟨⟨v, hP, hQ⟩, values, hPs, hQs⟩

/-- The tree is a **record**: it gives values for the fields, and each field has what it is
given by. -/
def IsRecord (slots : List (Slot σ)) (t : Tree) (d : σ) : Prop :=
  ∃ values, Gives (slots.map Slot.names) t values ∧
    List.Forall₂ (fun a v => Given a.blank a.Shape v (a.get d)) slots values

/-- A record that is an object, by what its members do in turn. -/
theorem isRecord_object_iff {slots : List (Slot σ)} (h : Lawful slots) {s d : σ}
    (hs : ∀ a ∈ slots, a.get s = a.blank) {ms : List (List Piece × Tree)} :
    IsRecord slots (.object ms) d ↔ ∃ entries, Keyed ms entries ∧
      ∃ seen, Folded (Takes slots) (s, []) entries (d, seen) := by
  constructor
  · rintro ⟨values, ⟨_, entries, hms, hkeyed, hgives⟩ | ⟨es, hes, -⟩, hgiven⟩
    · cases hms
      rw [List.forall₂_map_left_iff] at hgives
      refine ⟨entries, hkeyed, (folded_iff h).2 fun a ha => Slot.due_iff.2 ?_⟩
      exact forall_exists_iff.2 ⟨values, hgives, (forall₂_givenFrom_iff hs).2 hgiven⟩ a ha
    · cases hes
  · rintro ⟨entries, hkeyed, hfold⟩
    obtain ⟨values, hgives, hgiven⟩ :=
      forall_exists_iff.1 fun a ha => Slot.due_iff.1 ((folded_iff h).1 hfold a ha)
    refine ⟨values, .inl ⟨ms, entries, rfl, hkeyed, ?_⟩, (forall₂_givenFrom_iff hs).1 hgiven⟩
    rwa [List.forall₂_map_left_iff]

/-- A record that is a list, by what its elements do in turn. -/
theorem isRecord_list_iff {slots : List (Slot σ)} (h : Lawful slots) {s d : σ}
    (hs : ∀ a ∈ slots, a.get s = a.blank) {es : List Tree} :
    IsRecord slots (.list es) d ↔ Placed slots es s d := by
  constructor
  · rintro ⟨values, ⟨ms, entries, hms, -⟩ | ⟨_, hes, hlength, rfl⟩, hgiven⟩
    · cases hms
    · cases hes
      rw [List.length_map] at hlength hgiven
      exact (placed_iff [] h).2 ⟨hlength, nofun, (forall₂_givenFrom_iff hs).2 hgiven⟩
  · intro hes
    obtain ⟨hlength, -, hgiven⟩ := (placed_iff [] h).1 hes
    refine ⟨_, .inr ⟨es, rfl, ?_, rfl⟩, ?_⟩
    · rwa [List.length_map]
    · rw [List.length_map]
      exact (forall₂_givenFrom_iff hs).1 hgiven

/-- **Reading a record**: the reader that takes fields as they come, by name or by place,
reads exactly the trees that give every field once at most, as the record whose fields have
what they are given by. -/
theorem reads_record {slots : List (Slot σ)} (h : Lawful slots) {s : σ}
    (hs : ∀ a ∈ slots, a.get s = a.blank) (label : String) :
    Reads (record label (slots.map Slot.field) s) (IsRecord slots) := by
  intro ts d rest
  constructor
  · intro hread
    unfold record at hread
    split at hread
    · next ts =>
      obtain ⟨⟨⟨d', seen⟩, rest'⟩, hmembers, heq⟩ := map_eq_ok_iff.1 hread
      cases heq
      obtain ⟨ms, entries, hts, hkeyed, hfold⟩ := (members_eq_ok_iff h.readsMember).1 hmembers
      exact ⟨.object ms, hts, (isRecord_object_iff h hs).2 ⟨entries, hkeyed, seen, hfold⟩⟩
    · next ts =>
      obtain ⟨es, rfl, hes⟩ := positional_inv (fun a ha s => h.reads_field ha s) hread
      refine ⟨.list es, ?_, (isRecord_list_iff h hs).2 hes⟩
      rw [Tree.tokens_list, List.cons_append, List.append_assoc]
      rfl
    · exact absurd hread refuse_ne_ok
  · rintro ⟨t, rfl, ht⟩
    cases t with
    | object ms =>
        obtain ⟨entries, hkeyed, seen, hfold⟩ := (isRecord_object_iff h hs).1 ht
        rw [Tree.tokens_object, List.cons_append]
        refine map_eq_ok_iff.2 ⟨((d, seen), rest), ?_, rfl⟩
        refine (members_eq_ok_iff h.readsMember).2 ⟨ms, entries, ?_, hkeyed, hfold⟩
        rw [Tree.tokens_object, List.cons_append]
    | list es =>
        have hread := positional_rows (fun a ha s => h.reads_field ha s)
          ((isRecord_list_iff h hs).1 ht) true rest
        rw [Tree.tokens_list, List.cons_append, List.append_assoc]
        exact hread
    | _ =>
        obtain ⟨values, ⟨ms, entries, hms, -⟩ | ⟨es, hes, -⟩, -⟩ := ht
        · cases hms
        · cases hes

/-- Reading a record whose shape is stated field by field. -/
theorem reads_shape {slots : List (Slot σ)} (h : Lawful slots) {s : σ}
    (hs : ∀ a ∈ slots, a.get s = a.blank) (label : String) {S : Tree → σ → Prop}
    (hS : ∀ {t : Tree} {d : σ}, IsRecord slots t d ↔ S t d) :
    Reads (record label (slots.map Slot.field) s) S := by
  intro ts d rest
  have hread := reads_record h hs label ts d rest
  simp only [hS] at hread
  exact hread

end Scaffold.Json
