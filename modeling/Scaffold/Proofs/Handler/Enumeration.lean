import Mathlib.Data.List.Forall2
import Mathlib.Data.List.Nodup
import Scaffold.Handler.Descriptor
import Scaffold.Proofs.Discovery.Methods
import Scaffold.Proofs.Text.ByteOrder

/-!
# The handlers of a document

The handlers are enumerated if every method has a name and no two methods give one identifier.
They then stand in strictly ascending order of their identifiers, one for every method.

## Main definitions

* `Describes` - what the handler of a method says.

## Main results

* `enumerate_eq_ok_iff` - which lists are enumerated.
* `exists_enumerate_iff` - for which documents there is a list.
* `enumerate_exact` - both together, for the methods that a document has under their names.
-/

namespace Scaffold.Handler

open Discovery (Document Method)
open Text

/-! ### What a descriptor says -/

/-- The **path template of a method**: the flat one if it is given and not empty. -/
inductive HasPath (m : Method) : String → Prop where
  | flat {path : String} : m.flatPath = some path → path ≠ "" → HasPath m path
  | emptyFlat : m.flatPath = some "" → HasPath m m.path
  | noFlat : m.flatPath = none → HasPath m m.path

/-- The **path behind a slash**: the path itself if it begins with one. -/
inductive Rooted (path : String) : String → Prop where
  | rooted {rest : String} : path = "/" ++ rest → Rooted path path
  | bare : (∀ rest, path ≠ "/" ++ rest) → Rooted path ("/" ++ path)

/-- A **descriptor describes a method** of a resource: it has its verb, its identifier, and its
path behind a slash. -/
structure Describes (resource name : String) (m : Method) (d : Descriptor) : Prop where
  httpMethod : d.httpMethod = m.httpMethod
  identifier : d.identifier = resource ++ capitalized name
  path : ∃ template, HasPath m template ∧ Rooted template d.path

/-- The path of a method is the one to serve. -/
theorem hasPath_resolvedPath (m : Method) : HasPath m m.resolvedPath := by
  rw [Method.resolvedPath]
  cases hflat : m.flatPath with
  | none => exact .noFlat hflat
  | some path =>
    dsimp only
    split
    · next hempty =>
      obtain rfl := String.isEmpty_iff.1 hempty
      exact .emptyFlat hflat
    · next hempty => exact .flat hflat (mt String.isEmpty_iff.2 hempty)

/-- A slash is put in front of a path unless there is one. -/
theorem rooted_rooted (path : String) : Rooted path (rooted path) := by
  rw [rooted]
  split
  · next hslash =>
    obtain ⟨rest, hrest⟩ := List.head?_eq_some_iff.1 hslash
    refine @Rooted.rooted path (String.ofList rest) (String.toList_inj.1 ?_)
    rw [hrest, String.toList_append, String.toList_ofList (l := rest)]
    rfl
  · next hslash =>
    refine .bare fun rest heq => hslash ?_
    rw [heq, String.toList_append]
    rfl

/-- The descriptor of a method describes it. -/
theorem describes_describe (resource name : String) (m : Method) :
    Describes resource name m (describe resource name m) where
  httpMethod := rfl
  identifier := rfl
  path := ⟨m.resolvedPath, hasPath_resolvedPath m, rooted_rooted m.resolvedPath⟩

/-! ### Methods without a name -/

/-- No method without a name is found exactly if every method has one. -/
theorem unnamed?_eq_none_iff {doc : Document} :
    unnamed? doc = none ↔ ∀ entry ∈ doc.methods, entry.2.1 ≠ "" := by
  simp [unnamed?, List.find?_eq_none]

/-! ### Identifiers in order -/

/-- Sorting loses nothing. -/
theorem sorted_perm (ds : List Descriptor) : (sorted ds).Perm ds :=
  List.mergeSort_perm ds _

/-- Sorted descriptors are in order of their identifiers. -/
theorem pairwise_sorted (ds : List Descriptor) :
    (sorted ds).Pairwise fun a b => a.identifier ≤ b.identifier := by
  refine (List.pairwise_mergeSort ?_ ?_ ds).imp fun h => of_decide_eq_true h
  · intro a b c hab hbc
    exact decide_eq_true (Std.le_trans (of_decide_eq_true hab) (of_decide_eq_true hbc))
  · intro a b
    rw [Bool.or_eq_true, decide_eq_true_iff, decide_eq_true_iff]
    exact Std.le_total

/-- In a list in order, **no two neighbours share an identifier** exactly if the identifiers
ascend strictly. -/
theorem repeated?_eq_none_iff {ds : List Descriptor}
    (h : ds.Pairwise fun a b => a.identifier ≤ b.identifier) :
    repeated? ds = none ↔ ds.Pairwise fun a b => a.identifier < b.identifier := by
  fun_induction repeated? ds with
  | case1 a b rest heq =>
    refine ⟨nofun, fun hstrict => ?_⟩
    have hab := (List.pairwise_cons.1 hstrict).1 b List.mem_cons_self
    exact absurd (heq ▸ hab) Std.lt_irrefl
  | case2 a b rest hne ih =>
    obtain ⟨ha, hrest⟩ := List.pairwise_cons.1 h
    have hab : a.identifier < b.identifier :=
      Std.lt_of_le_of_ne (ha b List.mem_cons_self) hne
    rw [ih hrest]
    constructor
    · intro hstrict
      refine List.pairwise_cons.2 ⟨fun c hc => ?_, hstrict⟩
      rcases List.mem_cons.1 hc with rfl | hc
      · exact hab
      · exact Std.lt_trans hab ((List.pairwise_cons.1 hstrict).1 c hc)
    · exact fun hstrict => (List.pairwise_cons.1 hstrict).2
  | case3 ds hshort =>
    refine ⟨fun _ => ?_, fun _ => rfl⟩
    match ds, hshort with
    | [], _ => exact .nil
    | [a], _ => exact List.pairwise_singleton _ a
    | a :: b :: rest, hshort => exact (hshort a b rest rfl).elim

/-! ### Enumeration -/

/-- In strictly ascending order no two identifiers are one. -/
theorem nodup_of_ascending {ds : List Descriptor}
    (h : ds.Pairwise fun a b => a.identifier < b.identifier) :
    (ds.map Descriptor.identifier).Nodup :=
  List.pairwise_map.2 (h.imp Std.ne_of_lt)

/-- A list in strictly ascending order is determined by what stands in it. -/
theorem eq_sorted {ds es : List Descriptor} (hperm : ds.Perm es)
    (h : ds.Pairwise fun a b => a.identifier < b.identifier) : ds = sorted es := by
  have hsorted := hperm.trans (sorted_perm es).symm
  refine hsorted.eq_of_pairwise ?_ (h.imp Std.le_of_lt) (pairwise_sorted es)
  intro a b ha hb hab hba
  exact List.inj_on_of_nodup_map (nodup_of_ascending h) ha (hsorted.mem_iff.2 hb)
    (Std.le_antisymm hab hba)

/-- **Which list is enumerated**: the one in strictly ascending order of identifiers that has the
descriptors of all methods, provided that all methods have names. -/
theorem enumerate_eq_ok_iff {doc : Document} {ds : List Descriptor} :
    enumerate doc = .ok ds ↔
      (∀ entry ∈ doc.methods, entry.2.1 ≠ "") ∧
        ds.Pairwise (fun a b => a.identifier < b.identifier) ∧ ds.Perm (describeAll doc) := by
  rw [← unnamed?_eq_none_iff, enumerate]
  cases hunnamed : unnamed? doc with
  | some resource => simp
  | none =>
    have hnone := repeated?_eq_none_iff (pairwise_sorted (describeAll doc))
    dsimp only
    cases hrepeated : repeated? (sorted (describeAll doc)) with
    | some identifier =>
      simp only [hrepeated, reduceCtorEq, false_iff, not_and, true_and] at hnone ⊢
      intro hstrict hperm
      exact hnone (eq_sorted hperm hstrict ▸ hstrict)
    | none =>
      simp only [hrepeated, true_iff, true_and, Except.ok.injEq] at hnone ⊢
      constructor
      · rintro rfl
        exact ⟨hnone, sorted_perm _⟩
      · rintro ⟨hstrict, hperm⟩
        exact (eq_sorted hperm hstrict).symm

/-- There is a list exactly if **all methods have names and all identifiers differ**. -/
theorem exists_enumerate_iff {doc : Document} :
    (∃ ds, enumerate doc = .ok ds) ↔
      (∀ entry ∈ doc.methods, entry.2.1 ≠ "") ∧
        ((describeAll doc).map Descriptor.identifier).Nodup := by
  constructor
  · rintro ⟨ds, hds⟩
    obtain ⟨hnames, hstrict, hperm⟩ := enumerate_eq_ok_iff.1 hds
    exact ⟨hnames, (hperm.map _).nodup_iff.1 (nodup_of_ascending hstrict)⟩
  · rintro ⟨hnames, hnodup⟩
    refine ⟨_, enumerate_eq_ok_iff.2 ⟨hnames, ?_, sorted_perm _⟩⟩
    have hdiffer := List.pairwise_map.1 (((sorted_perm (describeAll doc)).map _).nodup_iff.2 hnodup)
    exact (pairwise_sorted _).imp₂ (fun _ _ hle hne => Std.lt_of_le_of_ne hle hne) hdiffer

/-! ### The enumeration of a document -/

/-- Two methods give two identifiers exactly if no identifier stands twice among the
descriptors. -/
theorem nodup_identifiers_iff {doc : Document} :
    ((describeAll doc).map Descriptor.identifier).Nodup ↔
      ∀ resource name m resource' name' m', doc.HasMethod resource name m →
        doc.HasMethod resource' name' m' →
        resource ++ capitalized name = resource' ++ capitalized name' →
        resource = resource' ∧ name = name' := by
  rw [describeAll, List.map_map]
  constructor
  · intro hnodup resource name m resource' name' m' hm hm' heq
    have hsame := List.inj_on_of_nodup_map hnodup (Document.mem_methods_iff.2 hm)
      (Document.mem_methods_iff.2 hm') heq
    obtain ⟨hresource, hrest⟩ := Prod.mk.inj hsame
    exact ⟨hresource, (Prod.mk.inj hrest).1⟩
  · intro hdiffer
    refine List.pairwise_map.2 (doc.pairwise_methods.imp_of_mem fun ha hb hlt heq => ?_)
    obtain ⟨hresource, hname⟩ := hdiffer _ _ _ _ _ _ (Document.mem_methods_iff.1 ha)
      (Document.mem_methods_iff.1 hb) heq
    rcases hlt with hlt | ⟨-, hlt⟩
    · exact Std.lt_irrefl (hresource ▸ hlt)
    · exact Std.lt_irrefl (hname ▸ hlt)

/-- **Enumeration is exact.** There is a list of handlers exactly if every method has a name and
no two methods, of one resource or of two, give one identifier. The list is in strictly ascending
order of the bytes of the identifiers, is as long as there are methods, and has, in another order,
one descriptor for each of them. -/
theorem enumerate_exact (doc : Document) :
    ((∃ ds, enumerate doc = .ok ds) ↔
      (∀ resource name m, doc.HasMethod resource name m → name ≠ "") ∧
        ∀ resource name m resource' name' m', doc.HasMethod resource name m →
          doc.HasMethod resource' name' m' →
          resource ++ capitalized name = resource' ++ capitalized name' →
          resource = resource' ∧ name = name') ∧
    ∀ ds, enumerate doc = .ok ds →
      ds.Pairwise (fun a b =>
        Utf8.encode a.identifier.toList < Utf8.encode b.identifier.toList) ∧
      ds.length = doc.methodCount ∧
      ∃ ms described, doc.Lists ms ∧
        List.Forall₂ (fun entry d => Describes entry.1 entry.2.1 entry.2.2 d) ms described ∧
        ds.Perm described := by
  constructor
  · rw [exists_enumerate_iff, nodup_identifiers_iff]
    refine and_congr_left fun _ => ?_
    constructor
    · exact fun h resource name m hm => h _ (Document.mem_methods_iff.2 hm)
    · exact fun h entry hentry => h _ _ _ (Document.mem_methods_iff.1 hentry)
  · intro ds hds
    obtain ⟨-, hstrict, hperm⟩ := enumerate_eq_ok_iff.1 hds
    refine ⟨hstrict.imp Utf8.encode_lt_encode, ?_, doc.methods, describeAll doc,
      doc.lists_methods, ?_, hperm⟩
    · rw [hperm.length_eq, describeAll, List.length_map, doc.length_methods]
    · refine List.forall₂_map_right_iff.2 (List.forall₂_same.2 fun entry _ => ?_)
      exact describes_describe entry.1 entry.2.1 entry.2.2

/-- A document of two resources, one of whose names goes on as the other's does with its
method. -/
def twoResources : Document where
  resources := .ofList [
    ("a", { methods := .ofList [("bC", { httpMethod := "GET", path := "a/{b}" })] }),
    ("aB", { methods := .ofList [("d", { path := "x", flatPath := some "/y" })] })]

/-- The identifiers of these methods differ, and so there are two handlers. -/
theorem enumerate_twoResources :
    (∀ resource name m, twoResources.HasMethod resource name m → name ≠ "") ∧
      ∃ ds, enumerate twoResources = .ok ds ∧ ds.length = 2 ∧
        ds.Pairwise fun a b =>
          Utf8.encode a.identifier.toList < Utf8.encode b.identifier.toList := by
  have hnames : ∀ resource name m, twoResources.HasMethod resource name m → name ≠ "" := by
    have hall : ∀ entry ∈ twoResources.methods, entry.2.1 ≠ "" := by decide +kernel
    exact fun resource name m hm => hall _ (Document.mem_methods_iff.2 hm)
  have hdiffer := nodup_identifiers_iff.1
    (show ((describeAll twoResources).map Descriptor.identifier).Nodup by decide +kernel)
  obtain ⟨ds, hds⟩ := (enumerate_exact twoResources).1.2 ⟨hnames, hdiffer⟩
  obtain ⟨hascending, hlength, -⟩ := (enumerate_exact twoResources).2 ds hds
  exact ⟨hnames, ds, hds, hlength.trans (by decide +kernel), hascending⟩

end Scaffold.Handler
