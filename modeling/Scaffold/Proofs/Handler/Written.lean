import Mathlib.Data.List.Flatten
import Scaffold.Proofs.Discovery.Methods
import Scaffold.Proofs.Discovery.Names
import Scaffold.Proofs.Handler.Enumeration
import Scaffold.Proofs.Json.Unique

/-!
# Methods as they are written

A method is written as a member of an object that stands under `methods` in a member of
`resources`. A document holds maps, and so of several members of one object with one name only the
last counts. Every method that is not replaced in this way is in the document, and gives a
descriptor or makes the enumeration fail.

## Main definitions

* `written` - the names of all methods that are written.
* `standing` - the names of those that no later member replaces.

## Main results

* `perm_standing` - a document has the methods that are not replaced.
* `enumerates_standing` - how many descriptors there are for a text.
* `enumerates_replaced` - a text with two methods that gives one descriptor.
-/

namespace Scaffold.Discovery

open Json (Tree Piece Means Gives Given textOf)

variable {α β γ : Type}

/-! ### What is written -/

/-- The text that a key stands for, and an empty one if it stands for none. -/
def keyText (key : List Piece) : String :=
  (textOf key none).toOption.getD ""

/-- The members of an object. -/
def membersOf (t : Tree) : List (List Piece × Tree) :=
  match t with
  | .object ms => ms
  | _ => []

/-- The values that are written for a field of a record, **under its name or at its place**. -/
def fieldValues (name : String) (place : Nat) (t : Tree) : List Tree :=
  match t with
  | .object ms => (ms.filter fun m => keyText m.1 = name).map (·.2)
  | .list es => es[place]?.toList
  | _ => []

/-- The members that are written for resources. -/
def resourceMembers (t : Tree) : List (List Piece × Tree) :=
  (fieldValues "resources" 3 t).flatMap membersOf

/-- The members that are written for the methods of a resource. -/
def methodMembers (r : Tree) : List (List Piece × Tree) :=
  (fieldValues "methods" 0 r).flatMap membersOf

/-- The **names of all methods that are written**, each with that of its resource. -/
def written (t : Tree) : List (String × String) :=
  (resourceMembers t).flatMap fun r => (methodMembers r.2).map fun m => (keyText r.1, keyText m.1)

/-- The names of the methods that are written and **that no later member replaces**: neither the
method is written again in the same object, nor the resource. -/
def standing (t : Tree) : List (String × String) :=
  (lasts (fun r => keyText r.1) (resourceMembers t)).flatMap fun r =>
    (lasts (fun m => keyText m.1) (methodMembers r.2)).map fun m => (keyText r.1, keyText m.1)

/-- Every method that is not replaced is written. -/
theorem standing_sublist (t : Tree) : (standing t).Sublist (written t) :=
  .trans (.flatMap_right _ fun _ _ => (lasts_sublist _ _).map _) ((lasts_sublist _ _).flatMap _)

/-! ### What is read -/

/-- The text of a key that stands for one. -/
theorem keyText_eq {key : List Piece} {name : String} (h : Means key name) : keyText key = name := by
  rw [keyText, Json.textOf_eq_ok_iff.2 ⟨rfl, h⟩]
  rfl

/-- Related lists are related place by place. -/
theorem forall₂_getElem? {S : α → β → Prop} {as : List α} {bs : List β} (h : List.Forall₂ S as bs)
    {i : Nat} {a : α} {b : β} (ha : as[i]? = some a) (hb : bs[i]? = some b) : S a b := by
  induction h generalizing i with
  | nil => cases ha
  | cons hab _ ih =>
      cases i with
      | zero =>
          cases ha
          cases hb
          exact hab
      | succ i => exact ih ha hb

/-- The values that are written for a field are the one that is given, if one is. -/
theorem fieldValues_eq {names : List (List String)} {t : Tree} {values : List (Option Tree)}
    (h : Gives names t values) {name : String} {place : Nat} {value : Option Tree}
    (hname : names[place]? = some [name]) (hvalue : values[place]? = some value) :
    fieldValues name place t = value.toList := by
  rcases h with ⟨ms, entries, rfl, hkeyed, hall⟩ | ⟨es, rfl, hlength, rfl⟩
  · have hfilter : fieldValues name place (.object ms) =
        (entries.filter fun e => e.1 ∈ [name]).map (·.2) := by
      rw [fieldValues]
      clear hall
      induction hkeyed with
      | nil => rfl
      | @cons m e ms entries hm _ ih =>
          obtain ⟨hmeans, hvalue⟩ := hm
          by_cases hkey : e.1 = name
          · rw [List.filter_cons_of_pos (by simpa [keyText_eq hmeans] using hkey),
              List.filter_cons_of_pos (by simpa using hkey), List.map_cons, List.map_cons, ih,
              hvalue]
          · rw [List.filter_cons_of_neg (by simpa [keyText_eq hmeans] using hkey),
              List.filter_cons_of_neg (by simpa using hkey), ih]
    rw [hfilter]
    exact forall₂_getElem? hall hname hvalue
  · rw [fieldValues]
    rcases Nat.lt_or_ge place es.length with hlt | hge
    · rw [List.getElem?_append_left (by simpa using hlt), List.getElem?_map] at hvalue
      obtain ⟨e, he, rfl⟩ := Option.map_eq_some_iff.1 hvalue
      rw [he]
    · rw [List.getElem?_append_right (by simpa using hge)] at hvalue
      obtain rfl : value = none := List.eq_of_mem_replicate (List.mem_of_getElem? hvalue)
      rw [List.getElem?_eq_none hge]

/-- A map has what the members give that are **written for it and not replaced**. -/
theorem exists_giving {R : Tree → α → Prop} {value : Option Tree} {d : NameMap α}
    (h : Given .empty (IsNames R) value d) :
    ∃ values, Giving R (lasts (fun m => keyText m.1) (value.toList.flatMap membersOf)) values ∧
      values.Perm d.entries := by
  have hempty : d = .empty → ∃ values, Giving R [] values ∧ values.Perm d.entries := by
    rintro rfl
    exact ⟨[], .nil, .nil⟩
  cases value with
  | none => exact hempty h
  | some t =>
      cases t with
      | null => exact hempty h
      | object ms =>
          obtain ⟨_, values, hms, hgiving, hfind⟩ := isNames_iff.1 h
          cases hms
          refine ⟨lasts (·.1) values, ?_, perm_entries hfind⟩
          rw [Option.toList, List.flatMap_singleton, membersOf]
          exact forall₂_lasts (fun m v hv => keyText_eq hv.1) hgiving
      | _ =>
          obtain ⟨_, _, ht, -⟩ := isNames_iff.1 h
          cases ht

/-- Members that give values have their names. -/
theorem map_keyText {R : Tree → α → Prop} {ms : List (List Piece × Tree)}
    {values : List (String × α)} (h : Giving R ms values) :
    (ms.map fun m => keyText m.1) = values.map (·.1) := by
  induction h with
  | nil => rfl
  | cons hv _ ih => rw [List.map_cons, List.map_cons, keyText_eq hv.1, ih]

/-- Lists that are joined from related parts. -/
theorem perm_flatMap {S : α → β → Prop} {f : α → List γ} {g : β → List γ}
    (h : ∀ a b, S a b → (f a).Perm (g b)) {as : List α} {bs : List β}
    (hall : List.Forall₂ S as bs) : (as.flatMap f).Perm (bs.flatMap g) := by
  induction hall with
  | nil => exact .nil
  | cons hab _ ih =>
      rw [List.flatMap_cons, List.flatMap_cons]
      exact (h _ _ hab).append ih

/-- A resource has the methods that are written for it and not replaced. -/
theorem perm_methodNames {t : Tree} {r : Resource} (h : Resource.Shape t r) :
    ((lasts (fun m => keyText m.1) (methodMembers t)).map fun m => keyText m.1).Perm
      (r.methods.entries.map (·.1)) := by
  obtain ⟨methods, hgives, hgiven⟩ := h
  obtain ⟨values, hgiving, hperm⟩ := exists_giving hgiven
  rw [methodMembers, fieldValues_eq hgives rfl rfl, map_keyText hgiving]
  exact hperm.map _

/-- A **document has the methods** that are written and not replaced. -/
theorem perm_standing {t : Tree} {doc : Document} (h : Document.Shape t doc) :
    (standing t).Perm (doc.methods.map fun entry => (entry.1, entry.2.1)) := by
  obtain ⟨name, version, title, resources, hgives, -, -, -, hgiven⟩ := h
  obtain ⟨values, hgiving, hperm⟩ := exists_giving hgiven
  have hnames : (doc.methods.map fun entry => (entry.1, entry.2.1)) =
      doc.resources.entries.flatMap fun entry =>
        (entry.2.methods.entries.map (·.1)).map fun name => (entry.1, name) := by
    rw [Document.methods, List.map_flatMap]
    simp only [List.map_map]
    rfl
  rw [standing, resourceMembers, fieldValues_eq hgives rfl rfl, hnames]
  refine .trans (perm_flatMap (fun m v hv => ?_) hgiving) (hperm.flatMap_right _)
  have hmethods := (perm_methodNames hv.2).map fun name => (v.1, name)
  rw [List.map_map] at hmethods
  rw [keyText_eq hv.1]
  exact hmethods

end Scaffold.Discovery

namespace Scaffold.Handler

open Discovery (Document written standing)
open Json (Tree Spelled)

/-! ### What is enumerated -/

/-- The identifiers of all descriptors are those of the names of the methods. -/
theorem map_identifier_describeAll (doc : Document) :
    (describeAll doc).map Descriptor.identifier =
      (doc.methods.map fun entry => (entry.1, entry.2.1)).map fun names =>
        identifierOf names.1 names.2 := by
  rw [describeAll, List.map_map, List.map_map]
  rfl

/-- **No method that is written disappears** unless a later member replaces it, in a text that is
decoded. If the methods are enumerated, there is one descriptor for each that is not replaced, with
its identifier, and there are as many as are written just if none is replaced. If two that are not
replaced give one identifier, the enumeration fails. -/
theorem enumerates_standing {bytes : List UInt8} {doc : Document} {t : Tree}
    (hdecode : Document.decode bytes = .ok doc) (ht : Spelled t.tokens bytes) :
    (∀ ds, enumerate doc = .ok ds →
      ds.length = (standing t).length ∧
      (ds.map Descriptor.identifier).Perm
        ((standing t).map fun names => identifierOf names.1 names.2) ∧
      (ds.length = (written t).length ↔ standing t = written t)) ∧
    (¬ ((standing t).map fun names => identifierOf names.1 names.2).Nodup →
      ∃ e, enumerate doc = .error e) := by
  have hshape := (Json.whole_tokens_eq_ok_iff_of_spelled Discovery.reads_document ht).1 hdecode
  have hidentifiers : ∀ ds, enumerate doc = .ok ds →
      (ds.map Descriptor.identifier).Perm
        ((standing t).map fun names => identifierOf names.1 names.2) := by
    intro ds hds
    obtain ⟨-, -, hperm⟩ := enumerate_eq_ok_iff.1 hds
    refine (hperm.map _).trans ?_
    rw [map_identifier_describeAll]
    exact ((Discovery.perm_standing hshape).map _).symm
  constructor
  · intro ds hds
    have hlength : ds.length = (standing t).length := by
      simpa using (hidentifiers ds hds).length_eq
    refine ⟨hlength, hidentifiers ds hds, fun heq => ?_, fun heq => heq ▸ hlength⟩
    exact (Discovery.standing_sublist t).eq_of_length (hlength ▸ heq)
  · intro hrepeated
    cases hds : enumerate doc with
    | error e => exact ⟨e, rfl⟩
    | ok ds =>
        obtain ⟨-, hascending, -⟩ := enumerate_eq_ok_iff.1 hds
        exact absurd ((hidentifiers ds hds).nodup_iff.1 (nodup_of_ascending hascending)) hrepeated

/-- A text with two methods of one resource. -/
def twiceText (first second : String) : List UInt8 :=
  Json.octets ("\x7b\"resources\":\x7b\"a\":\x7b\"methods\":\x7b\"" ++ first ++ "\":\x7b\x7d,\"" ++
    second ++ "\":\x7b\x7d\x7d\x7d\x7d\x7d").toList

/-- The value that it spells. -/
def twiceTree (first second : String) : Tree :=
  .object [(Json.plainContent "resources", .object [(Json.plainContent "a", .object
    [(Json.plainContent "methods", .object
      [(Json.plainContent first, .object []), (Json.plainContent second, .object [])])])])]

/-- Two methods whose names differ in their first letter only: both stand, and neither is dropped
without a word. -/
theorem enumerates_standing_twice :
    Spelled (twiceTree "b" "B").tokens (twiceText "b" "B") ∧
      standing (twiceTree "b" "B") = [("a", "b"), ("a", "B")] ∧
      ∃ doc, Document.decode (twiceText "b" "B") = .ok doc ∧ ∃ e, enumerate doc = .error e := by
  have hspelled : Spelled (twiceTree "b" "B").tokens (twiceText "b" "B") :=
    Json.spelled_tree_iff.2 (by decide +kernel)
  have hstanding : standing (twiceTree "b" "B") = [("a", "b"), ("a", "B")] := by decide +kernel
  have haccepted : ((Document.decode (twiceText "b" "B")).map fun _ => ()) = .ok () := by
    decide +kernel
  obtain ⟨doc, hdoc, -⟩ := map_eq_ok_iff.1 haccepted
  refine ⟨hspelled, hstanding, doc, hdoc, (enumerates_standing hdoc hspelled).2 ?_⟩
  rw [hstanding]
  decide +kernel

/-- A method that is **written twice** is dropped once: the text has two methods and is decoded, and
there is one descriptor. -/
theorem enumerates_replaced :
    Spelled (twiceTree "b" "b").tokens (twiceText "b" "b") ∧
      written (twiceTree "b" "b") = [("a", "b"), ("a", "b")] ∧
      ∃ doc ds, Document.decode (twiceText "b" "b") = .ok doc ∧ enumerate doc = .ok ds ∧
        ds.length = 1 := by
  have hspelled : Spelled (twiceTree "b" "b").tokens (twiceText "b" "b") :=
    Json.spelled_tree_iff.2 (by decide +kernel)
  have hread : ((Document.decode (twiceText "b" "b")).map fun doc =>
      (doc.methods.map (·.2.1), describeAll doc)) = .ok (["b"], [⟨"/", "", "aB"⟩]) := by
    decide +kernel
  obtain ⟨doc, hdoc, hmethods⟩ := map_eq_ok_iff.1 hread
  obtain ⟨hnames, hall⟩ := Prod.mk.inj hmethods
  refine ⟨hspelled, by decide +kernel, doc, [⟨"/", "", "aB"⟩], hdoc, ?_, rfl⟩
  refine enumerate_eq_ok_iff.2 ⟨fun entry hentry => ?_, List.pairwise_singleton _ _, hall ▸ .refl _⟩
  have hname : entry.2.1 ∈ ["b"] := hnames ▸ List.mem_map_of_mem hentry
  rw [List.mem_singleton.1 hname]
  decide

end Scaffold.Handler
