/-!
# Sorted maps

A finite map whose entries are kept in ascending order of their keys. The order is part of the
type, so that a map has one form only, and two maps with the same entries are equal. Strings
are ordered by code point, which is also the order of their UTF-8 bytes, and lists of strings
in the order of a dictionary.

## Main results

* `ordered_insertEntry`, `ordered_eraseEntry` - insertion and removal keep the order.
* `find?_insert`, `find?_erase` - what insertion and removal do to each key.
* `find?_ofList` - of several entries with one key the last counts.
* `find?_eq_some_iff` - a key has a value if the two are an entry.
* `SortedMap.ext`, `ext_find?` - maps with the same entries, or the same values under all keys,
  are equal.
-/

namespace Scaffold

/-- Entries are **ordered** when their keys ascend strictly. -/
def Ordered [LT κ] (entries : List (κ × α)) : Prop :=
  entries.Pairwise fun a b => a.1 < b.1

/-- A finite map, its entries in ascending order of their keys. -/
structure SortedMap (κ : Type) (α : Type) [LT κ] where
  /-- The entries, each a key with its value. -/
  entries : List (κ × α)
  /-- The keys ascend strictly. -/
  ordered : Ordered entries

namespace SortedMap

variable {κ : Type} {α : Type} [LT κ] [DecidableLT κ] [DecidableEq κ]

/-- Puts a value under a key, in place of the one that was there. -/
def insertEntry (key : κ) (value : α) (entries : List (κ × α)) : List (κ × α) :=
  match entries with
  | [] => [(key, value)]
  | entry :: rest =>
    if key < entry.1 then (key, value) :: entry :: rest
    else if key = entry.1 then (key, value) :: rest
    else entry :: insertEntry key value rest

/-- Every entry after an insertion is the new one or an old one. -/
theorem mem_insertEntry {key : κ} {value : α} {entries : List (κ × α)}
    {e : κ × α} (h : e ∈ insertEntry key value entries) :
    e = (key, value) ∨ e ∈ entries := by
  induction entries with
  | nil => simpa [insertEntry] using h
  | cons entry rest ih =>
    rw [insertEntry] at h
    split at h
    · simpa using h
    · split at h
      · rcases List.mem_cons.1 h with h | h
        · exact .inl h
        · exact .inr (List.mem_cons_of_mem _ h)
      · rcases List.mem_cons.1 h with h | h
        · exact .inr (h ▸ List.mem_cons_self)
        · exact (ih h).imp_right (List.mem_cons_of_mem _)

/-- Insertion keeps the keys in order. -/
theorem ordered_insertEntry [LE κ] [Std.IsLinearOrder κ] [Std.LawfulOrderLT κ]
    {key : κ} {value : α} {entries : List (κ × α)}
    (h : Ordered entries) : Ordered (insertEntry key value entries) := by
  induction entries with
  | nil => simp [insertEntry, Ordered]
  | cons entry rest ih =>
    obtain ⟨hentry, hrest⟩ := List.pairwise_cons.1 h
    rw [insertEntry]
    split
    · next hlt =>
      refine List.pairwise_cons.2 ⟨fun e he => ?_, h⟩
      rcases List.mem_cons.1 he with rfl | he
      · exact hlt
      · exact Std.lt_trans hlt (hentry e he)
    · split
      · next heq => exact List.pairwise_cons.2 ⟨fun e he => heq ▸ hentry e he, hrest⟩
      · next hlt hne =>
        refine List.pairwise_cons.2 ⟨fun e he => ?_, ih hrest⟩
        rcases mem_insertEntry he with rfl | he
        · exact Std.not_le.1 fun hle => hne (Std.le_antisymm hle (Std.not_lt.1 hlt))
        · exact hentry e he

/-- Entries without those of a key. -/
def eraseEntry (key : κ) (entries : List (κ × α)) : List (κ × α) :=
  entries.filter fun e => e.1 ≠ key

omit [DecidableLT κ] in
/-- Removal keeps the keys in order. -/
theorem ordered_eraseEntry {key : κ} {entries : List (κ × α)}
    (h : Ordered entries) : Ordered (eraseEntry key entries) :=
  List.Pairwise.filter _ h

omit [DecidableLT κ] [DecidableEq κ] in
/-- Maps with the same entries are equal. -/
@[ext] theorem ext {m n : SortedMap κ α} (h : m.entries = n.entries) : m = n := by
  cases m; cases n; cases h; rfl

/-- The map without entries. -/
def empty : SortedMap κ α :=
  ⟨[], List.Pairwise.nil⟩

instance : Inhabited (SortedMap κ α) := ⟨empty⟩

/-- How many keys the map has. -/
def size (m : SortedMap κ α) : Nat :=
  m.entries.length

/-- The value under a key. -/
def find? (m : SortedMap κ α) (key : κ) : Option α :=
  (m.entries.find? fun e => e.1 = key).map (·.2)

/-- The map without a key. -/
def erase (m : SortedMap κ α) (key : κ) : SortedMap κ α :=
  ⟨eraseEntry key m.entries, ordered_eraseEntry m.ordered⟩

variable [LE κ] [Std.IsLinearOrder κ] [Std.LawfulOrderLT κ]

/-- Puts a value under a key, in place of the one that was there. -/
def insert (m : SortedMap κ α) (key : κ) (value : α) : SortedMap κ α :=
  ⟨insertEntry key value m.entries, ordered_insertEntry m.ordered⟩

/-- The map that arises when the entries are put one after the other: of several with one
key the last stays. -/
def ofList (entries : List (κ × α)) : SortedMap κ α :=
  entries.foldl (fun m e => m.insert e.1 e.2) empty

/-! ### The values under the keys -/

omit [DecidableLT κ] [LE κ] [Std.IsLinearOrder κ] [Std.LawfulOrderLT κ] in
/-- The empty map has no value under any key. -/
@[simp] theorem find?_empty (key : κ) : (empty : SortedMap κ α).find? key = none := rfl

omit [LE κ] [Std.IsLinearOrder κ] [Std.LawfulOrderLT κ] in
/-- What an insertion does to the search for a key. -/
theorem find?_insertEntry (key : κ) (value : α) (entries : List (κ × α)) (k : κ) :
    ((insertEntry key value entries).find? fun e => e.1 = k)
      = if k = key then some (key, value) else entries.find? fun e => e.1 = k := by
  induction entries with
  | nil => by_cases h : k = key <;> simp [insertEntry, h, eq_comm]
  | cons entry rest ih =>
    rw [insertEntry]
    split
    · by_cases h : k = key <;> simp [List.find?_cons, h, eq_comm]
    · split
      · next heq =>
        by_cases h : k = key
        · simp [h]
        · have hk : ¬ key = k := fun e => h e.symm
          simp [h, hk, ← heq]
      · next hne =>
        rw [List.find?_cons, ih, List.find?_cons]
        by_cases hk : entry.1 = k
        · have h : ¬ k = key := fun e => hne (e ▸ hk.symm)
          simp [hk, h]
        · simp [hk]

/-- After an insertion the key has the new value, and every other key what it had. -/
theorem find?_insert (m : SortedMap κ α) (key : κ) (value : α) (k : κ) :
    (m.insert key value).find? k = if k = key then some value else m.find? k := by
  rw [find?, insert, find?_insertEntry]
  split <;> rfl

/-- After entries were put one after the other, a key has the value of the last entry under it,
and what it had if there is none. -/
theorem find?_foldl_insert (entries : List (κ × α)) (m : SortedMap κ α) (k : κ) :
    (entries.foldl (fun m e => m.insert e.1 e.2) m).find? k
      = ((entries.reverse.find? fun e => e.1 = k).map (·.2)).or (m.find? k) := by
  induction entries generalizing m with
  | nil => rfl
  | cons entry rest ih =>
    rw [List.foldl_cons, ih, find?_insert, List.reverse_cons, List.find?_append]
    cases rest.reverse.find? fun e => e.1 = k with
    | some e => rfl
    | none =>
      by_cases hk : k = entry.1
      · simp [hk]
      · have hne : ¬ entry.1 = k := fun h => hk h.symm
        simp [hk, hne]

/-- In a map that arises from entries a key has the **value of the last entry** under it. -/
theorem find?_ofList (entries : List (κ × α)) (k : κ) :
    (ofList entries).find? k = (entries.reverse.find? fun e => e.1 = k).map (·.2) := by
  rw [ofList, find?_foldl_insert, find?_empty, Option.or_none]

omit [DecidableLT κ] [LE κ] [Std.IsLinearOrder κ] [Std.LawfulOrderLT κ] in
/-- After a removal the key has no value, and every other key what it had. -/
theorem find?_erase (m : SortedMap κ α) (key k : κ) :
    (m.erase key).find? k = if k = key then none else m.find? k := by
  simp only [find?, erase, eraseEntry, List.find?_filter]
  split
  · next h =>
    rw [List.find?_eq_none.2 fun e _ => by simp [h]]
    rfl
  · next h =>
    congr 2
    funext e
    by_cases he : e.1 = k <;> simp [he, h]

omit [DecidableLT κ] [LE κ] [Std.IsLinearOrder κ] [Std.LawfulOrderLT κ] in
/-- A key below all others is not found. -/
theorem find?_eq_none_of_lt [Std.Irrefl (α := κ) (· < ·)] {entries : List (κ × α)} {key : κ}
    (h : ∀ e ∈ entries, key < e.1) : (entries.find? fun e => e.1 = key) = none := by
  refine List.find?_eq_none.2 fun e he => ?_
  simp only [decide_eq_true_eq]
  intro heq
  exact Std.lt_irrefl (heq ▸ h e he)

omit [DecidableLT κ] [LE κ] [Std.IsLinearOrder κ] [Std.LawfulOrderLT κ] in
/-- A key of ordered entries has the value with which it stands among them. -/
theorem find?_eq_some_iff_mem [Std.Irrefl (α := κ) (· < ·)] {entries : List (κ × α)}
    (h : Ordered entries) {key : κ} {value : α} :
    (entries.find? fun e => e.1 = key).map (·.2) = some value ↔ (key, value) ∈ entries := by
  induction entries with
  | nil => simp
  | cons entry rest ih =>
    obtain ⟨hentry, hrest⟩ := List.pairwise_cons.1 h
    by_cases hkey : entry.1 = key
    · have hnotMem : (key, value) ∉ rest := fun hmem =>
        Std.lt_irrefl (hkey ▸ hentry _ hmem)
      simp [hkey, hnotMem, Prod.ext_iff, eq_comm]
    · have hne : (key, value) ≠ entry := fun heq => hkey (heq ▸ rfl)
      simp [hkey, hne, ← ih hrest]

omit [DecidableLT κ] [LE κ] [Std.IsLinearOrder κ] [Std.LawfulOrderLT κ] in
/-- A key **has a value** if the two are an entry. -/
theorem find?_eq_some_iff [Std.Irrefl (α := κ) (· < ·)] {m : SortedMap κ α} {key : κ}
    {value : α} : m.find? key = some value ↔ (key, value) ∈ m.entries :=
  find?_eq_some_iff_mem m.ordered

omit [DecidableLT κ] in
/-- Ordered entries that give every key the same value are the same. -/
theorem eq_of_find?_eq {xs ys : List (κ × α)} (hx : Ordered xs) (hy : Ordered ys)
    (h : ∀ key, (xs.find? fun e => e.1 = key).map (·.2) = (ys.find? fun e => e.1 = key).map (·.2)) :
    xs = ys := by
  induction xs generalizing ys with
  | nil =>
    cases ys with
    | nil => rfl
    | cons y ys => simpa using h y.1
  | cons x xs ih =>
    cases ys with
    | nil => simpa using h x.1
    | cons y ys =>
      obtain ⟨hxs, hx⟩ := List.pairwise_cons.1 hx
      obtain ⟨hys, hy⟩ := List.pairwise_cons.1 hy
      have hle : ∀ {a b : κ × α} {as bs : List (κ × α)}, (∀ e ∈ bs, b.1 < e.1) →
          ((a :: as).find? fun e => e.1 = a.1).map (·.2)
            = ((b :: bs).find? fun e => e.1 = a.1).map (·.2) → ¬ a.1 < b.1 := by
        intro a b as bs hbs heq hlt
        have hnone : ((b :: bs).find? fun e => e.1 = a.1) = none := by
          refine find?_eq_none_of_lt fun e he => ?_
          rcases List.mem_cons.1 he with rfl | he
          · exact hlt
          · exact Std.lt_trans hlt (hbs e he)
        simp [hnone] at heq
      have hkey : x.1 = y.1 :=
        Std.le_antisymm (Std.not_lt.1 (hle hxs (h y.1).symm)) (Std.not_lt.1 (hle hys (h x.1)))
      have hvalue : x.2 = y.2 := by simpa [hkey] using h y.1
      refine congr (congrArg List.cons (Prod.ext hkey hvalue)) (ih hx hy fun key => ?_)
      by_cases hk : x.1 = key
      · rw [find?_eq_none_of_lt fun e he => hk ▸ hxs e he,
          find?_eq_none_of_lt fun e he => hk ▸ hkey ▸ hys e he]
      · simpa [hk, hkey ▸ hk] using h key

omit [DecidableLT κ] in
/-- Maps that have the same value under every key are equal. -/
theorem ext_find? {m n : SortedMap κ α} (h : ∀ key, m.find? key = n.find? key) : m = n :=
  ext (eq_of_find?_eq m.ordered n.ordered h)

end SortedMap

end Scaffold
