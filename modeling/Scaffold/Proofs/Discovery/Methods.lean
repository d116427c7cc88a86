import Scaffold.Discovery.Document

/-!
# The methods of a document

A document holds its methods in two levels of maps, and `methods` lists them. The list has every
method that is found in the maps once, and no other.

## Main definitions

* `HasMethod` - a method under its name, in a resource under its name.
* `Lists` - a list in which every method stands once.
* `Declares` - a method under its names, with its verb and path only.
* `declarations` - all that a document declares, in the order of the names.

## Main results

* `pairwise_methods` - the methods are listed in the order of their names.
* `lists_methods` - every method is listed once.
* `length_methods` - how many methods are listed.
* `declarations_eq` - documents that declare the same list it in the same order.
-/

namespace Scaffold.Discovery.Document

/-- A **document has a method** under the name of a resource and its own name. -/
def HasMethod (doc : Document) (resource name : String) (m : Method) : Prop :=
  ∃ r, doc.resources.find? resource = some r ∧ r.methods.find? name = some m

/-- A list **has every method of a document once**: the methods that the document has, and no
two of them under the same names. -/
structure Lists (doc : Document) (ms : List (String × String × Method)) : Prop where
  mem_iff : ∀ {resource name : String} {m : Method},
    (resource, name, m) ∈ ms ↔ doc.HasMethod resource name m
  nodup : (ms.map fun entry => (entry.1, entry.2.1)).Nodup

/-- A method is listed if the document has it. -/
theorem mem_methods_iff {doc : Document} {resource name : String} {m : Method} :
    (resource, name, m) ∈ doc.methods ↔ doc.HasMethod resource name m := by
  simp only [methods, HasMethod, SortedMap.find?_eq_some_iff, List.mem_flatMap, List.mem_map]
  constructor
  · rintro ⟨⟨resource', r⟩, hr, ⟨name', m'⟩, hm, heq⟩
    cases heq
    exact ⟨r, hr, hm⟩
  · rintro ⟨r, hr, hm⟩
    exact ⟨(resource, r), hr, (name, m), hm, rfl⟩

/-- Names of resources and methods are **listed in ascending order**: by the resource, and within
one by the method. -/
theorem pairwise_methods (doc : Document) :
    doc.methods.Pairwise fun a b => a.1 < b.1 ∨ a.1 = b.1 ∧ a.2.1 < b.2.1 := by
  refine List.pairwise_flatMap.2 ⟨fun entry _ => ?_, ?_⟩
  · refine List.pairwise_map.2 (entry.2.methods.ordered.imp fun h => ?_)
    exact .inr ⟨rfl, h⟩
  · refine doc.resources.ordered.imp fun h a ha b hb => ?_
    obtain ⟨_, -, rfl⟩ := List.mem_map.1 ha
    obtain ⟨_, -, rfl⟩ := List.mem_map.1 hb
    exact .inl h

/-- Every method of a document is **listed once**. -/
theorem lists_methods (doc : Document) : doc.Lists doc.methods where
  mem_iff := mem_methods_iff
  nodup := by
    refine List.pairwise_map.2 (doc.pairwise_methods.imp fun h heq => ?_)
    obtain ⟨hresource, hname⟩ := Prod.mk.inj heq
    rcases h with h | ⟨-, h⟩
    · exact Std.lt_irrefl (hresource ▸ h)
    · exact Std.lt_irrefl (hname ▸ h)

/-- How many methods are listed. -/
theorem length_methods (doc : Document) : doc.methods.length = doc.methodCount := by
  rw [methods, methodCount]
  induction doc.resources.entries with
  | nil => rfl
  | cons entry rest ih =>
    rw [List.flatMap_cons, List.length_append, List.length_map, ih]
    rfl

/-! ### Declarations -/

/-- A document **declares** a method under two names, with a verb and a path. -/
def Declares (doc : Document) (resource name verb path : String) : Prop :=
  ∃ m, doc.HasMethod resource name m ∧ m.httpMethod = verb ∧ m.resolvedPath = path

/-- What a document **declares**, in the order of the names. -/
def declarations (doc : Document) : List (String × String × String × String) :=
  doc.methods.map fun (resource, name, m) => (resource, name, m.httpMethod, m.resolvedPath)

/-- Everything that is declared is listed, and nothing else. -/
theorem mem_declarations_iff {doc : Document} {resource name verb path : String} :
    (resource, name, verb, path) ∈ doc.declarations ↔ doc.Declares resource name verb path := by
  rw [declarations, List.mem_map]
  constructor
  · rintro ⟨⟨resource', name', m⟩, hentry, heq⟩
    cases heq
    exact ⟨m, mem_methods_iff.1 hentry, rfl, rfl⟩
  · rintro ⟨m, hm, rfl, rfl⟩
    exact ⟨(resource, name, m), mem_methods_iff.2 hm, rfl⟩

/-- Declarations are listed in ascending order of their names. -/
theorem pairwise_declarations (doc : Document) :
    doc.declarations.Pairwise fun a b => a.1 < b.1 ∨ a.1 = b.1 ∧ a.2.1 < b.2.1 :=
  List.pairwise_map.2 doc.pairwise_methods

/-- Documents that **declare the same** list it in the same order. -/
theorem declarations_eq {doc doc' : Document}
    (h : ∀ resource name verb path,
      doc.Declares resource name verb path ↔ doc'.Declares resource name verb path) :
    doc.declarations = doc'.declarations := by
  have hasymm : ∀ a b : String × String × String × String,
      (a.1 < b.1 ∨ a.1 = b.1 ∧ a.2.1 < b.2.1) → ¬ (b.1 < a.1 ∨ b.1 = a.1 ∧ b.2.1 < a.2.1) := by
    rintro a b (hab | ⟨hab, hname⟩) (hba | ⟨hba, hname'⟩)
    · exact Std.lt_irrefl (Std.lt_trans hab hba)
    · exact Std.lt_irrefl (hba ▸ hab)
    · exact Std.lt_irrefl (hab ▸ hba)
    · exact Std.lt_irrefl (Std.lt_trans hname hname')
  have hnodup : ∀ doc : Document, doc.declarations.Nodup := by
    intro doc
    refine doc.pairwise_declarations.imp ?_
    rintro a _ hab rfl
    exact hasymm a a hab hab
  have hperm : doc.declarations.Perm doc'.declarations := by
    rw [List.perm_ext_iff_of_nodup (hnodup doc) (hnodup doc')]
    rintro ⟨resource, name, verb, path⟩
    rw [mem_declarations_iff, mem_declarations_iff, h]
  exact hperm.eq_of_pairwise (fun a b _ _ hab hba => absurd hba (hasymm a b hab))
    doc.pairwise_declarations doc'.pairwise_declarations

end Scaffold.Discovery.Document
