import Mathlib.Data.List.Duplicate
import Mathlib.Data.List.Perm.Subperm
import Scaffold.Proofs.Except
import Scaffold.Proofs.Handler.Enumeration

/-!
# The culprit that is reported

A document that cannot be enumerated is refused with one error, however much is wrong with it.
The error names a resource with a method that has no name, or else an identifier that two methods
or more give. Of several it names the least, in the order of their bytes, so that it depends on
the names of resources and methods alone.

## Main definitions

* `Least` - the least text with a property, in the order of bytes.
* `Culprit` - what the error about a document names.

## Main results

* `unnamed?_least` - the first resource that is found is the least one.
* `repeated?_least` - the first repetition in a list in order is the least one.
* `enumerate_eq_error_iff` - which error a document is refused with.
* `enumerate_culprit` - the same, together with what the error depends on.
-/

namespace Scaffold.Handler

open Discovery (Document Method)
open Text

/-! ### What is wrong with a document -/

/-- A document **has the names** of a resource and of a method in it. -/
def HasNames (doc : Document) (resource name : String) : Prop :=
  ∃ m, doc.HasMethod resource name m

/-- A document gives an identifier **more than once**: two methods under different names have it. -/
def Shared (doc : Document) (identifier : String) : Prop :=
  ∃ a b : String × String, a ≠ b ∧ HasNames doc a.1 a.2 ∧ HasNames doc b.1 b.2 ∧
    identifierOf a.1 a.2 = identifier ∧ identifierOf b.1 b.2 = identifier

/-- The **least text** with a property, in the order of the bytes. -/
def Least (p : String → Prop) (s : String) : Prop :=
  p s ∧ ∀ t, p t → t ≠ s → Utf8.encode s.toList < Utf8.encode t.toList

/-- The **culprit** of a document: the least resource with a method that has no name, and where
every method has one the least identifier that is given more than once. -/
inductive Culprit (doc : Document) : DecodeError → Prop where
  | unnamed {resource : String} : Least (HasNames doc · "") resource →
      Culprit doc (.unnamedMethod resource)
  | shared {identifier : String} : (∀ resource, ¬ HasNames doc resource "") →
      Least (Shared doc) identifier → Culprit doc (.duplicateIdentifier identifier)

variable {doc doc' : Document} {p q : String → Prop} {s t : String}

/-- A text is the least one if no other with the property is smaller. -/
theorem Least.of_le (hs : p s) (hle : ∀ t, p t → s ≤ t) : Least p s :=
  ⟨hs, fun t ht hne =>
    have hlt : s < t := Std.lt_of_le_of_ne (hle t ht) hne.symm
    Utf8.encode_lt_encode hlt⟩

/-- There is **one least text** at most. -/
theorem Least.unique (hs : Least p s) (ht : Least p t) : s = t := by
  by_contra hne
  exact Std.lt_irrefl (Std.lt_trans (hs.2 t ht.1 (Ne.symm hne)) (ht.2 s hs.1 hne))

/-- The least text is that of an equivalent property. -/
theorem least_congr (h : ∀ s, p s ↔ q s) : Least p s ↔ Least q s := by
  obtain rfl : p = q := funext fun s => propext (h s)
  rfl

/-- What a document declares is listed under its names. -/
theorem hasNames_iff {resource name : String} :
    HasNames doc resource name ↔ ∃ m, (resource, name, m) ∈ doc.methods := by
  simp only [HasNames, Document.mem_methods_iff]

/-! ### Methods without a name -/

/-- The resource that is found first among those with a method without a name is the **least**
one. -/
theorem unnamed?_least {resource : String} (h : unnamed? doc = some resource) :
    Least (HasNames doc · "") resource := by
  obtain ⟨⟨_, name, m⟩, hfind, rfl⟩ := Option.map_eq_some_iff.1 h
  obtain ⟨hempty, before, after, hmethods, hbefore⟩ := List.find?_eq_some_iff_append.1 hfind
  obtain rfl : name = "" := String.isEmpty_iff.1 hempty
  refine .of_le (hasNames_iff.2 ⟨m, hmethods ▸ by simp⟩) fun other hother => ?_
  obtain ⟨m', hmem⟩ := hasNames_iff.1 hother
  have horder := hmethods ▸ doc.pairwise_methods
  rw [hmethods] at hmem
  rcases List.mem_append.1 hmem with hmem | hmem
  · cases hbefore _ hmem
  rcases List.mem_cons.1 hmem with heq | hmem
  · exact Std.le_of_eq (congrArg Prod.fst heq).symm
  rcases (List.pairwise_cons.1 (List.pairwise_append.1 horder).2.1).1 _ hmem with hlt | ⟨heq, -⟩
  · exact Std.le_of_lt hlt
  · exact Std.le_of_eq heq

/-- No resource is found exactly if every method has a name. -/
theorem unnamed?_eq_none_iff_hasNames :
    unnamed? doc = none ↔ ∀ resource, ¬ HasNames doc resource "" := by
  rw [unnamed?_eq_none_iff]
  constructor
  · intro h resource hnames
    obtain ⟨m, hmem⟩ := hasNames_iff.1 hnames
    exact h _ hmem rfl
  · rintro h ⟨resource, name, m⟩ hmem rfl
    exact h resource (hasNames_iff.2 ⟨m, hmem⟩)

/-! ### Identifiers that repeat -/

/-- In a list in order, the first identifier that two neighbours share **stands twice, and no
smaller one does**. -/
theorem repeated?_least {ds : List Descriptor}
    (h : ds.Pairwise fun a b => a.identifier ≤ b.identifier) {identifier : String}
    (hrepeated : repeated? ds = some identifier) :
    (ds.map Descriptor.identifier).Duplicate identifier ∧
      ∀ other, (ds.map Descriptor.identifier).Duplicate other → identifier ≤ other := by
  fun_induction repeated? ds with
  | case1 a b rest heq =>
    obtain rfl := Option.some.inj hrepeated
    refine ⟨?_, fun other hother => ?_⟩
    · rw [List.map_cons, List.map_cons, heq]
      exact (List.mem_cons_self).duplicate_cons_self
    · obtain ⟨c, hc, rfl⟩ := List.mem_map.1 hother.mem
      rcases List.mem_cons.1 hc with rfl | hc
      · exact Std.le_refl _
      · exact (List.pairwise_cons.1 h).1 c hc
  | case2 a b rest hne ih =>
    obtain ⟨ha, hrest⟩ := List.pairwise_cons.1 h
    obtain ⟨htwice, hleast⟩ := ih hrest hrepeated
    refine ⟨htwice.duplicate_cons _, fun other hother => ?_⟩
    rcases List.duplicate_cons_iff.1 hother with ⟨rfl, hmem⟩ | hother
    · -- What the first one has in common with a later one it has in common with its neighbour.
      obtain ⟨c, hc, heq⟩ := List.mem_map.1 hmem
      have hba : b.identifier ≤ a.identifier := by
        rcases List.mem_cons.1 hc with rfl | hc
        · exact Std.le_of_eq heq
        · exact heq ▸ (List.pairwise_cons.1 hrest).1 c hc
      exact absurd (Std.le_antisymm (ha b List.mem_cons_self) hba) hne
    · exact hleast other hother
  | case3 ds hshort => cases hrepeated

/-- An identifier stands twice among the descriptors exactly if it is given more than once. -/
theorem duplicate_iff_shared {identifier : String} :
    ((describeAll doc).map Descriptor.identifier).Duplicate identifier ↔ Shared doc identifier := by
  rw [describeAll, List.map_map]
  constructor
  · intro h
    obtain ⟨pair, hsub, hpair⟩ := List.sublist_map_iff.1 (List.duplicate_iff_sublist.1 h)
    obtain ⟨⟨r, n, m⟩, rest, rfl, hfirst, hpair⟩ := List.map_eq_cons_iff.1 hpair.symm
    obtain ⟨⟨r', n', m'⟩, rest, rfl, hsecond, hrest⟩ := List.map_eq_cons_iff.1 hpair
    obtain rfl := List.map_eq_nil_iff.1 hrest
    have hnodup := List.pairwise_map.1 doc.lists_methods.nodup
    have hne := (List.pairwise_cons.1 (hnodup.sublist hsub)).1 _ List.mem_cons_self
    exact ⟨(r, n), (r', n'), hne, hasNames_iff.2 ⟨m, hsub.subset List.mem_cons_self⟩,
      hasNames_iff.2 ⟨m', hsub.subset (List.mem_cons_of_mem _ List.mem_cons_self)⟩, hfirst, hsecond⟩
  · rintro ⟨⟨r, n⟩, ⟨r', n'⟩, hne, hfirst, hsecond, rfl, heq⟩
    obtain ⟨m, hm⟩ := hasNames_iff.1 hfirst
    obtain ⟨m', hm'⟩ := hasNames_iff.1 hsecond
    have hnodup : [(r, n, m), (r', n', m')].Nodup := by
      refine List.pairwise_pair.2 fun hsame => hne ?_
      obtain ⟨hresource, hrest⟩ := Prod.mk.inj hsame
      exact Prod.ext hresource (Prod.mk.inj hrest).1
    have hsubset : [(r, n, m), (r', n', m')] ⊆ doc.methods :=
      List.cons_subset.2 ⟨hm, List.cons_subset.2 ⟨hm', List.nil_subset _⟩⟩
    obtain ⟨pair, hperm, hsub⟩ := List.subperm_of_subset hnodup hsubset
    have hcount := (hperm.map fun entry => identifierOf entry.1 entry.2.1).count_eq
      (identifierOf r n)
    rw [List.map_cons, List.map_singleton, heq, List.count_cons_self, List.count_singleton_self]
      at hcount
    exact .mono_sublist (List.duplicate_iff_two_le_count.2 (Nat.le_of_eq hcount.symm)) (hsub.map _)

/-! ### The error of a document -/

/-- The error that a document is refused with **names the culprit**. -/
theorem culprit_of_enumerate {e : DecodeError} (h : enumerate doc = .error e) : Culprit doc e := by
  rw [enumerate] at h
  cases hunnamed : unnamed? doc with
  | some resource =>
    rw [hunnamed] at h
    obtain rfl := Except.error.inj h
    exact .unnamed (unnamed?_least hunnamed)
  | none =>
    rw [hunnamed] at h
    dsimp only at h
    cases hrepeated : repeated? (sorted (describeAll doc)) with
    | none =>
      rw [hrepeated] at h
      cases h
    | some identifier =>
      rw [hrepeated] at h
      obtain rfl := Except.error.inj h
      obtain ⟨htwice, hleast⟩ := repeated?_least (pairwise_sorted _) hrepeated
      have hperm := (sorted_perm (describeAll doc)).map Descriptor.identifier
      have hshared : ∀ other,
          ((sorted (describeAll doc)).map Descriptor.identifier).Duplicate other ↔
            Shared doc other := by
        intro other
        rw [← duplicate_iff_shared, List.duplicate_iff_two_le_count,
          List.duplicate_iff_two_le_count, hperm.count_eq]
      exact .shared (unnamed?_eq_none_iff_hasNames.1 hunnamed)
        (.of_le ((hshared _).1 htwice) fun other hother => hleast other ((hshared other).2 hother))

/-- A document has **one culprit** at most. -/
theorem Culprit.unique {e e' : DecodeError} (h : Culprit doc e) (h' : Culprit doc e') : e = e' := by
  cases h with
  | unnamed hleast =>
    cases h' with
    | unnamed hleast' => rw [hleast.unique hleast']
    | shared hnames _ => exact absurd hleast.1 (hnames _)
  | shared hnames hleast =>
    cases h' with
    | unnamed hleast' => exact absurd hleast'.1 (hnames _)
    | shared _ hleast' => rw [hleast.unique hleast']

/-- A document with a culprit is not enumerated. -/
theorem Culprit.ne_ok {e : DecodeError} (h : Culprit doc e) (ds : List Descriptor) :
    enumerate doc ≠ .ok ds := by
  intro hds
  obtain ⟨hnames, hnodup⟩ := exists_enumerate_iff.1 ⟨ds, hds⟩
  cases h with
  | unnamed hleast =>
    obtain ⟨m, hmem⟩ := hasNames_iff.1 hleast.1
    exact hnames _ hmem rfl
  | shared _ hleast => exact (duplicate_iff_shared.2 hleast.1).not_nodup hnodup

/-- **Which error a document is refused with**: the one that names its culprit. -/
theorem enumerate_eq_error_iff {e : DecodeError} : enumerate doc = .error e ↔ Culprit doc e := by
  refine ⟨culprit_of_enumerate, fun h => ?_⟩
  obtain ⟨e', he'⟩ := exists_error h.ne_ok
  rw [he', h.unique (culprit_of_enumerate he')]

/-- Documents with the same names give the same identifiers more than once. -/
theorem shared_congr
    (h : ∀ resource name, HasNames doc resource name ↔ HasNames doc' resource name)
    (identifier : String) : Shared doc identifier ↔ Shared doc' identifier := by
  simp only [Shared, h]

/-- The culprit is that of every document **with the same names**. -/
theorem Culprit.of_names
    (h : ∀ resource name, HasNames doc resource name ↔ HasNames doc' resource name)
    {e : DecodeError} (hculprit : Culprit doc e) : Culprit doc' e := by
  cases hculprit with
  | unnamed hleast => exact .unnamed ((least_congr fun _ => h _ "").1 hleast)
  | shared hnames hleast =>
    exact .shared (fun resource => mt (h resource "").2 (hnames resource))
      ((least_congr (shared_congr h)).1 hleast)

/-- **The culprit that is reported.** A document is refused exactly with the error that names its
culprit: the least resource, in the order of bytes, that has a method without a name; and where
every method has a name the least identifier that two or more methods give. The error is the same
for all documents that have the same names of resources and methods, whatever else they say. -/
theorem enumerate_culprit (doc : Document) :
    (∀ e, enumerate doc = .error e ↔ Culprit doc e) ∧
    ∀ doc', (∀ resource name, HasNames doc resource name ↔ HasNames doc' resource name) →
      ∀ e, enumerate doc = .error e ↔ enumerate doc' = .error e := by
  refine ⟨fun e => enumerate_eq_error_iff, fun doc' hnames e => ?_⟩
  rw [enumerate_eq_error_iff, enumerate_eq_error_iff]
  exact ⟨.of_names hnames, .of_names fun resource name => (hnames resource name).symm⟩

/-- A document in which four methods of three resources share two identifiers. -/
def twoClashes (verb : String) : Document where
  resources := .ofList [
    ("b", { methods := .ofList [("get", { httpMethod := verb }), ("Get", {})] }),
    ("a", { methods := .ofList [("bC", {})] }),
    ("aB", { methods := .ofList [("c", { path := verb })] })]

/-- Of the two identifiers the smaller one is reported, whatever the verbs and paths are. -/
theorem enumerate_twoClashes :
    (∀ resource name, HasNames (twoClashes "GET") resource name ↔
      HasNames (twoClashes "POST") resource name) ∧
    enumerate (twoClashes "GET") = .error (.duplicateIdentifier "aBC") ∧
    enumerate (twoClashes "POST") = .error (.duplicateIdentifier "aBC") := by
  have hlisted : ∀ {doc : Document} {resource name : String}, HasNames doc resource name ↔
      (resource, name) ∈ doc.methods.map fun entry => (entry.1, entry.2.1) := by
    simp [hasNames_iff]
  have hsame : (twoClashes "GET").methods.map (fun entry => (entry.1, entry.2.1)) =
      (twoClashes "POST").methods.map fun entry => (entry.1, entry.2.1) := by decide +kernel
  have hnames : ∀ resource name, HasNames (twoClashes "GET") resource name ↔
      HasNames (twoClashes "POST") resource name := fun resource name => by
    rw [hlisted, hlisted, hsame]
  have htwice : 2 ≤ ((describeAll (twoClashes "GET")).map Descriptor.identifier).count "aBC" := by
    decide +kernel
  have hleast : ∀ other ∈ (describeAll (twoClashes "GET")).map Descriptor.identifier,
      2 ≤ ((describeAll (twoClashes "GET")).map Descriptor.identifier).count other →
        "aBC" ≤ other := by
    decide +kernel
  have hculprit : Culprit (twoClashes "GET") (.duplicateIdentifier "aBC") := by
    refine .shared (unnamed?_eq_none_iff_hasNames.1 (by decide +kernel)) (.of_le ?_ ?_)
    · exact duplicate_iff_shared.1 (List.duplicate_iff_two_le_count.2 htwice)
    · intro other hother
      have hother := duplicate_iff_shared.2 hother
      exact hleast other hother.mem (List.duplicate_iff_two_le_count.1 hother)
  have herror := ((enumerate_culprit (twoClashes "GET")).1 _).2 hculprit
  exact ⟨hnames, herror, ((enumerate_culprit _).2 _ hnames _).1 herror⟩

end Scaffold.Handler
