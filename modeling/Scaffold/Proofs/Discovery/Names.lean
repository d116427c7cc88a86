import Mathlib.Data.List.Nodup
import Scaffold.Proofs.Discovery.Decode

/-!
# Maps by their members

A map from names is read from the members of an object, and of several members with one name the
last counts. So the entries of the map are, up to their order, what those members give that no
later one replaces.

## Main definitions

* `Giving` - members that give values under names.
* `lasts` - the elements that no later one replaces.

## Main results

* `isNames_iff` - what a map has under its names.
* `find?_reverse_eq_some_iff` - the last value under a name is one that is not replaced.
* `perm_entries` - the entries of a map.
-/

namespace Scaffold.Discovery

open Json (Tree Keyed Valued Means)

variable {α β κ : Type}

/-! ### Members that give values -/

/-- Members of a map **give values under names**: their keys stand for the names, and their values
are read as those. -/
def Giving (R : Tree → α → Prop) (ms : List (List Json.Piece × Tree)) (values : List (String × α)) :
    Prop :=
  List.Forall₂ (fun m v => Means m.1 v.1 ∧ R m.2 v.2) ms values

/-- Members that are keyed first and then read. -/
theorem giving_iff {R : Tree → α → Prop} {ms : List (List Json.Piece × Tree)}
    {values : List (String × α)} :
    Giving R ms values ↔ ∃ entries, Keyed ms entries ∧ Valued R entries values := by
  constructor
  · intro h
    induction h with
    | nil => exact ⟨[], .nil, .nil⟩
    | @cons m v ms values hv _ ih =>
        obtain ⟨entries, hkeyed, hvalued⟩ := ih
        exact ⟨(v.1, m.2) :: entries, .cons ⟨hv.1, rfl⟩ hkeyed, .cons ⟨rfl, hv.2⟩ hvalued⟩
  · rintro ⟨entries, hkeyed, hvalued⟩
    induction hkeyed generalizing values with
    | nil =>
        cases hvalued
        exact .nil
    | cons hm _ ih =>
        cases hvalued with
        | cons hv hvalued =>
            obtain ⟨hmeans, hvalue⟩ := hm
            exact .cons ⟨hv.1 ▸ hmeans, hvalue ▸ hv.2⟩ (ih hvalued)

/-- What a map has under its names, by its members. -/
theorem isNames_iff {R : Tree → α → Prop} {t : Tree} {d : NameMap α} :
    IsNames R t d ↔ ∃ ms values, t = .object ms ∧ Giving R ms values ∧
      ∀ name, d.find? name = (values.reverse.find? fun v => v.1 = name).map (·.2) := by
  constructor
  · rintro ⟨ms, entries, values, ht, hkeyed, hvalued, hd⟩
    exact ⟨ms, values, ht, giving_iff.2 ⟨entries, hkeyed, hvalued⟩, hd⟩
  · rintro ⟨ms, values, ht, hgiving, hd⟩
    obtain ⟨entries, hkeyed, hvalued⟩ := giving_iff.1 hgiving
    exact ⟨ms, entries, values, ht, hkeyed, hvalued, hd⟩

/-- What a map that is an object has under its names. -/
theorem isNames_object_iff {R : Tree → α → Prop} {ms : List (List Json.Piece × Tree)}
    {d : NameMap α} : IsNames R (.object ms) d ↔ ∃ values, Giving R ms values ∧
      ∀ name, d.find? name = (values.reverse.find? fun v => v.1 = name).map (·.2) := by
  rw [isNames_iff]
  constructor
  · rintro ⟨_, values, hms, hgiving, hd⟩
    cases hms
    exact ⟨values, hgiving, hd⟩
  · rintro ⟨values, hgiving, hd⟩
    exact ⟨ms, values, rfl, hgiving, hd⟩

/-! ### Elements that are not replaced -/

variable [DecidableEq κ]

/-- The elements that **no later one with the same key replaces**. -/
def lasts (key : α → κ) (xs : List α) : List α :=
  match xs with
  | [] => []
  | x :: xs => if key x ∈ xs.map key then lasts key xs else x :: lasts key xs

/-- An element that is replaced. -/
theorem lasts_cons_of_mem {key : α → κ} {x : α} {xs : List α} (h : key x ∈ xs.map key) :
    lasts key (x :: xs) = lasts key xs :=
  if_pos h

/-- An element that is not. -/
theorem lasts_cons_of_notMem {key : α → κ} {x : α} {xs : List α} (h : key x ∉ xs.map key) :
    lasts key (x :: xs) = x :: lasts key xs :=
  if_neg h

/-- Nothing is added. -/
theorem lasts_sublist (key : α → κ) (xs : List α) : (lasts key xs).Sublist xs := by
  induction xs with
  | nil => exact .slnil
  | cons x xs ih =>
      by_cases h : key x ∈ xs.map key
      · exact lasts_cons_of_mem h ▸ ih.cons x
      · exact lasts_cons_of_notMem h ▸ ih.cons_cons x

/-- No two of them have one key. -/
theorem nodup_lasts (key : α → κ) (xs : List α) : ((lasts key xs).map key).Nodup := by
  induction xs with
  | nil => exact .nil
  | cons x xs ih =>
      by_cases h : key x ∈ xs.map key
      · exact lasts_cons_of_mem h ▸ ih
      · rw [lasts_cons_of_notMem h, List.map_cons, List.nodup_cons]
        exact ⟨fun hmem => h (((lasts_sublist key xs).map key).mem hmem), ih⟩

/-- If no two elements have one key, **none is replaced**. -/
theorem lasts_eq_self {key : α → κ} {xs : List α} (h : (xs.map key).Nodup) : lasts key xs = xs := by
  induction xs with
  | nil => rfl
  | cons x xs ih =>
      obtain ⟨hx, hxs⟩ := List.nodup_cons.1 h
      rw [lasts_cons_of_notMem hx, ih hxs]

/-- Related lists stay related where related elements have the same key. -/
theorem forall₂_lasts {S : α → β → Prop} {key : α → κ} {key' : β → κ}
    (h : ∀ x y, S x y → key x = key' y) {xs : List α} {ys : List β} (hall : List.Forall₂ S xs ys) :
    List.Forall₂ S (lasts key xs) (lasts key' ys) := by
  induction hall with
  | nil => exact .nil
  | @cons x y xs ys hxy hxys ih =>
      have hkeys : xs.map key = ys.map key' := by
        clear ih
        induction hxys with
        | nil => rfl
        | cons hxy _ ih => rw [List.map_cons, List.map_cons, h _ _ hxy, ih]
      by_cases hmem : key x ∈ xs.map key
      · rw [lasts_cons_of_mem hmem, lasts_cons_of_mem (h x y hxy ▸ hkeys ▸ hmem)]
        exact ih
      · rw [lasts_cons_of_notMem hmem, lasts_cons_of_notMem (h x y hxy ▸ hkeys ▸ hmem)]
        exact .cons hxy ih

/-- The **last value under a name** is the one that is not replaced. -/
theorem find?_reverse_eq_some_iff {values : List (String × α)} {name : String} {a : α} :
    (values.reverse.find? fun v => v.1 = name).map (·.2) = some a ↔
      (name, a) ∈ lasts (·.1) values := by
  induction values with
  | nil => exact ⟨nofun, nofun⟩
  | cons v values ih =>
      rw [List.reverse_cons, List.find?_append]
      by_cases h : v.1 ∈ values.map (·.1)
      · rw [lasts_cons_of_mem h, ← ih]
        cases hfind : values.reverse.find? fun w => w.1 = name with
        | some w => exact Iff.rfl
        | none =>
            have hne : v.1 ≠ name := by
              rintro rfl
              obtain ⟨w, hw, hname⟩ := List.mem_map.1 h
              exact List.find?_eq_none.1 hfind w (List.mem_reverse.2 hw) (decide_eq_true hname)
            simp [hne]
      · rw [lasts_cons_of_notMem h, List.mem_cons, ← ih]
        cases hfind : values.reverse.find? fun w => w.1 = name with
        | some w =>
            have hname : w.1 = name := by simpa using List.find?_some hfind
            have hw := List.mem_reverse.1 (List.mem_of_find?_eq_some hfind)
            have hne : (name, a) ≠ v := by
              rintro rfl
              exact h (List.mem_map.2 ⟨w, hw, hname⟩)
            simp [hne]
        | none => simp [Prod.ext_iff, eq_comm]

/-- The **entries of a map** are those of the values that are not replaced. -/
theorem perm_entries {values : List (String × α)} {d : NameMap α}
    (h : ∀ name, d.find? name = (values.reverse.find? fun v => v.1 = name).map (·.2)) :
    (lasts (·.1) values).Perm d.entries := by
  have hentries : d.entries.Nodup := by
    refine d.ordered.imp ?_
    rintro e _ hlt rfl
    exact Std.lt_irrefl hlt
  rw [List.perm_ext_iff_of_nodup (.of_map _ (nodup_lasts _ values)) hentries]
  rintro ⟨name, a⟩
  rw [← find?_reverse_eq_some_iff, ← h, SortedMap.find?_eq_some_iff]

end Scaffold.Discovery
