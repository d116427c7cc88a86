import Scaffold.Proofs.Emit.Tree
import Scaffold.Text.Normal

/-!
# What a source registers

The entries, assertions and handler types that stand in a source, wherever it comes from: they
are picked out of its tree. In the tree of generated source there is one of each for every
handler. The names of types that a source imports or declares are picked out likewise.

## Main definitions

* `File.entries` - the entries of the table of handlers.
* `File.assertions` - the assertions that types implement the trait.
* `File.handlerTypes` - the types that are declared besides the type of the entries.
* `File.typeNames` - the names that a source defines for types, by imports or by declarations.
* `Name.normal` - what a compiler tells names apart by.

## Main results

* `entries_tree`, `assertions_tree`, `handlerTypes_tree` - the parts of generated source.
* `typeNames_tree` - the names that generated source defines.
-/

namespace Scaffold.Source

/-! ### The parts of a source -/

/-- The entries that a declaration puts into the table. -/
def Item.entries (i : Item) : List Expr :=
  match i with
  | .mk _ _ (.static _ name _ (.reference _ (.array es))) =>
    if name = .ofString "HANDLERS" then es else []
  | _ => []

/-- The **entries of the table** of handlers. -/
def File.entries (f : File) : List Expr :=
  f.items.flatMap Item.entries

/-- Whether a statement calls the asserting function. -/
def Statement.isAssertion (s : Statement) : Bool :=
  match s with
  | .expression (.call (.path (.mk _ [.mk name _])) _) _ => name = .ofString "assert_handler"
  | _ => false

/-- The assertions that stand in the value of a constant. -/
def Item.assertions (i : Item) : List Statement :=
  match i with
  | .mk _ _ (.constant _ _ (.closure _ body)) => body.filter Statement.isAssertion
  | _ => []

/-- The **assertions** that types implement the trait. -/
def File.assertions (f : File) : List Statement :=
  f.items.flatMap Item.assertions

/-- The name of the record that a declaration declares. -/
def Item.record? (i : Item) : Option Name :=
  match i with
  | .mk _ _ (.record name _ _) => some name
  | _ => none

/-- The names of the **handler types**: the records that are declared besides the type of the
entries. -/
def File.handlerTypes (f : File) : List Name :=
  (f.items.filterMap Item.record?).filter (· ≠ .ofString "Handler")

/-! ### The names of types -/

mutual

/-- The names that an import defines, given the name that leads to it: the word `self` stands for
this one. Names of which all are imported are not told. -/
def UseTree.names (parent : Option Name) (t : UseTree) : List Name :=
  match t with
  | .path n rest => rest.names (some n)
  | .name n => if n.isWord "self" then parent.toList else [n]
  | .rename _ target => if target.isWord "_" then [] else [target]
  | .all => []
  | .group ts => namesOfGroup parent ts

/-- The names that the imports of a group define. -/
def UseTree.namesOfGroup (parent : Option Name) (ts : List UseTree) : List Name :=
  match ts with
  | [] => []
  | t :: rest => t.names parent ++ namesOfGroup parent rest

end

/-- The names that a declaration defines **among those of types**, where modules and traits have
theirs, too. -/
def Item.typeNames (i : Item) : List Name :=
  match i with
  | .mk _ _ kind =>
    match kind with
    | .use _ t => t.names none
    | .library name rename => [rename.getD name]
    | .record name _ _ | .enumeration name _ _ | .alias name _ _ | .trait name _ _ => [name]
    | .outerModule name | .module name _ => [name]
    | .constant .. | .static .. | .implementation .. | .function .. => []

/-- The **names that a source defines for types**, one for each time that it does. -/
def File.typeNames (f : File) : List Name :=
  f.items.flatMap Item.typeNames

/-- The form of a name that a compiler **tells names apart by**: two that are spelled in different
ways, but mean the same text, are one name. -/
def Name.normal (n : Name) : List Char :=
  Text.normalForm n.text

end Scaffold.Source

namespace Scaffold.Emit

open Handler (Descriptor)
open Source

/-! ### The parts of generated source -/

/-- A declaration of a handler's type puts no entries anywhere. -/
theorem flatMap_declarationItem {α : Type} {part : Item → List α}
    (h : ∀ d, part (declarationItem d) = []) (handlers : List Descriptor) :
    (handlers.map declarationItem).flatMap part = [] := by
  rw [List.flatMap_map, List.flatMap_eq_nil_iff]
  exact fun d _ => h d

/-- The table of generated source has **one entry for each handler**. -/
theorem entries_tree (p : TraitPath) (handlers : List Descriptor) :
    (tree p handlers).entries = handlers.map entryTree := by
  have hrest : (handlers.map declarationItem).flatMap Item.entries = [] :=
    flatMap_declarationItem (fun _ => rfl) handlers
  rw [File.entries, tree]
  simp only [List.flatMap_cons, hrest]
  simp [importItem, handlerItem, tableItem, assertionsItem, Item.entries]

/-- Generated source has **one assertion for each handler**. -/
theorem assertions_tree (p : TraitPath) (handlers : List Descriptor) :
    (tree p handlers).assertions = handlers.map assertionTree := by
  have hrest : (handlers.map declarationItem).flatMap Item.assertions = [] :=
    flatMap_declarationItem (fun _ => rfl) handlers
  have hall : (handlers.map assertionTree).filter Statement.isAssertion =
      handlers.map assertionTree := by
    rw [List.filter_eq_self]
    intro s hs
    obtain ⟨d, -, rfl⟩ := List.mem_map.1 hs
    rfl
  rw [File.assertions, tree]
  simp only [List.flatMap_cons, hrest]
  simp [importItem, handlerItem, tableItem, assertionsItem, Item.assertions, hall,
    Statement.isAssertion]

/-- Generated source declares **one type for each handler**, provided that no handler has the
name of the type of the entries. -/
theorem handlerTypes_tree (p : TraitPath) {handlers : List Descriptor}
    (h : ∀ d ∈ handlers, typeOf d ≠ .ofString "Handler") :
    (tree p handlers).handlerTypes = handlers.map typeOf := by
  have hrecords : (handlers.map declarationItem).filterMap Item.record? = handlers.map typeOf := by
    simp [Function.comp_def, declarationItem, Item.record?]
  have hall : (handlers.map typeOf).filter (· ≠ .ofString "Handler") = handlers.map typeOf := by
    rw [List.filter_eq_self]
    intro n hn
    obtain ⟨d, hd, rfl⟩ := List.mem_map.1 hn
    exact decide_eq_true (h d hd)
  rw [File.handlerTypes, tree]
  simp only [List.filterMap_cons, hrecords]
  simpa [importItem, handlerItem, tableItem, assertionsItem, Item.record?] using hall

/-- The import of a path defines its last name, unless that leads to the path itself. -/
theorem names_importTree {name : Name} (h : name.isWord "self" = false) (steps : List Name)
    (parent : Option Name) : (importTree steps name).names parent = [name] := by
  induction steps generalizing parent with
  | nil => rw [importTree, UseTree.names, h, if_neg Bool.false_ne_true]
  | cons n rest ih => rw [importTree, UseTree.names, ih]

/-- Generated source defines **the name of the trait, that of the entries, and one for each
handler**. -/
theorem typeNames_tree (p : TraitPath) (handlers : List Descriptor) :
    (tree p handlers).typeNames = p.name :: .ofString "Handler" :: handlers.map typeOf := by
  have hself : p.name.isWord "self" = false := by
    rw [Bool.eq_false_iff]
    intro hword
    obtain ⟨hraw, htext⟩ := Bool.and_eq_true_iff.1 hword
    have hname := (Bool.and_eq_true_iff.1 p.isNamed).2
    rw [Name.isIdentifier, Bool.not_eq_eq_eq_not.1 hraw, eq_of_beq htext] at hname
    exact absurd hname (by decide)
  have hrest : (handlers.map declarationItem).flatMap Item.typeNames = handlers.map typeOf := by
    rw [List.flatMap_map]
    exact List.map_eq_flatMap.symm
  rw [File.typeNames, tree]
  simp only [List.flatMap_cons, hrest]
  simp [importItem, handlerItem, tableItem, assertionsItem, Item.typeNames,
    names_importTree hself]

end Scaffold.Emit
