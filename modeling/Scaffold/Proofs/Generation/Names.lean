import Scaffold.Proofs.Generation.Kept

/-!
# Names of types in the generated source

The types of the handlers get their names from the document, the type of the entries from the
template, and the trait from the configuration. The handlers are only compared with each other.
No handler has the name of the type of the entries, since every method has a name; but one may have
the name of the trait, and then the source of a run that succeeds defines one name twice.

## Main definitions

* `unnamedResource` - a document with a handler that has the name of the usual trait.

## Main results

* `types_stand_apart` - when a type has the name of the trait, and when a name is defined twice.
* `clashes_unnamedResource` - a run that succeeds and gives a source that defines a name twice.
-/

namespace Scaffold.Generated

open Discovery (Document)
open Handler (Descriptor)
open Emit Source

/-! ### The names of a run -/

/-- No name stands **twice in the tree** of generated source unless it is that of the trait. -/
theorem nodup_typeNames_tree {p : TraitPath} {handlers : List Descriptor}
    (hsolid : ∀ d ∈ handlers, d.identifier.toList.all isSolid = true)
    (hne : ∀ d ∈ handlers, d.identifier ≠ "") (hnodup : (handlers.map Descriptor.identifier).Nodup) :
    ((tree p handlers).typeNames.map Name.text).Nodup ↔
      p.name.text ≠ "Handler".toList ∧ ∀ d ∈ handlers, d.typeName.toList ≠ p.name.text := by
  have htext : (handlers.map typeOf).map Name.text = handlers.map fun d => d.typeName.toList := by
    rw [List.map_map]
    exact List.map_congr_left fun d hd => text_typeOf (hsolid d hd)
  have hentries : "Handler".toList ∉ handlers.map fun d => d.typeName.toList := by
    rw [List.mem_map]
    rintro ⟨d, hd, heq⟩
    exact typeName_ne_handler (hne d hd) (String.toList_inj.1 heq)
  have htypes := nodup_typeOf hsolid hnodup
  rw [htext] at htypes
  rw [typeNames_tree, List.map_cons, List.map_cons, htext, List.nodup_cons, List.nodup_cons,
    List.mem_cons, not_or, List.mem_map]
  constructor
  · rintro ⟨⟨htrait, hothers⟩, -⟩
    exact ⟨htrait, fun d hd heq => hothers ⟨d, hd, heq⟩⟩
  · rintro ⟨htrait, hothers⟩
    refine ⟨⟨htrait, ?_⟩, hentries, htypes⟩
    rintro ⟨d, hd, heq⟩
    exact hothers d hd heq

/-- In a run that succeeds **no type has the name of the type of the entries**. A type has the name
of the trait just if the identifier of a method, followed by `Handler`, is that name. The source
spells each name that it defines once, provided that no identifier has a character that separates
tokens, a slash, a hash or a quote, just if neither the type of the entries nor that of a handler
has the name of the trait; and if each name is its own normal form, a compiler tells them apart in
the same case. -/
theorem types_stand_apart {home : String} {config : Config} {mode : Mode} {doc : Document}
    {s : Store} {g : Generated} (hrun : (run home config mode doc s).1 = .ok g) :
    ∃ handlers, Handler.enumerate doc = .ok handlers ∧
      (∀ d ∈ handlers, d.typeName ≠ "Handler") ∧
      ((∃ d ∈ handlers, d.typeName = config.traitName) ↔
        ∃ resource name m, doc.HasMethod resource name m ∧
          Handler.identifierOf resource name ++ "Handler" = config.traitName) ∧
      ∀ p : TraitPath, Text.trimmed config.handlerTrait = String.ofList p.spelling →
        (∀ d ∈ handlers, d.identifier.toList.all isSolid = true) →
        ∃ file, File.read? g.source.toList = some file ∧
          ((file.typeNames.map Name.text).Nodup ↔
            p.name.text ≠ "Handler".toList ∧ ∀ d ∈ handlers, d.typeName.toList ≠ p.name.text) ∧
          ((∀ n ∈ file.typeNames, Text.normalForm n.text = n.text) →
            ((file.typeNames.map Name.normal).Nodup ↔
              p.name.text ≠ "Handler".toList ∧
                ∀ d ∈ handlers, d.typeName.toList ≠ p.name.text)) := by
  obtain ⟨handlers, hhandlers, -, hread⟩ := exists_handlers_of_run hrun
  have hne : ∀ d ∈ handlers, d.identifier ≠ "" := fun d hd => identifier_ne_empty hhandlers hd
  refine ⟨handlers, hhandlers, fun d hd => typeName_ne_handler (hne d hd), ?_, ?_⟩
  · constructor
    · rintro ⟨d, hd, heq⟩
      obtain ⟨resource, name, m, hm, rfl⟩ := (mem_handlers_iff hhandlers).1 hd
      exact ⟨resource, name, m, hm, heq⟩
    · rintro ⟨resource, name, m, hm, heq⟩
      exact ⟨_, (mem_handlers_iff hhandlers).2 ⟨resource, name, m, hm, rfl⟩, heq⟩
  · intro p hpath hsolid
    obtain ⟨-, hascending, -⟩ := Handler.enumerate_eq_ok_iff.1 hhandlers
    have hnodup := Handler.nodup_of_ascending hascending
    have hspelled := nodup_typeNames_tree (p := p) hsolid hne hnodup
    refine ⟨_, hread p hpath hsolid, hspelled, fun hnormal => ?_⟩
    rwa [List.map_congr_left fun n hn => show Name.normal n = n.text from hnormal n hn]

/-- The two handlers of the usual trait have names of their own. -/
theorem types_stand_apart_twoHandlers :
    ∃ g file, (run "" {} .dryRun Handler.twoResources Store.empty).1 = .ok g ∧
      File.read? g.source.toList = some file ∧ (file.typeNames.map Name.normal).Nodup := by
  have htypes : ∀ d ∈ twoHandlers, isIdentifier (typeOf d) = true := by decide
  obtain ⟨g, hrun, -, htree⟩ := @exists_run_of_read? "" _ _ _ _ _ trimmed_usualTrait
    enumerate_twoHandlers (read?_template htypes) htypes Store.empty
  obtain ⟨handlers, hhandlers, -, -, hfile⟩ := types_stand_apart hrun
  cases enumerate_twoHandlers.symm.trans hhandlers
  obtain ⟨file, hread, -, hnodup⟩ := hfile usualPath trimmed_usualTrait (by decide)
  cases htree.symm.trans hread
  have hplain : ∀ n ∈ (tree usualPath twoHandlers).typeNames,
      n.text.all (·.toNat < 0xC0) = true := by
    rw [typeNames_tree]
    decide
  exact ⟨g, _, hrun, hread,
    (hnodup fun n hn => Text.normalForm_eq_self (hplain n hn)).2 (by decide)⟩

/-! ### A type with the name of the trait -/

/-- A document with a method of a resource whose name is empty. -/
def unnamedResource : Document where
  resources := .ofList [("", { methods := .ofList [("http", {})] })]

/-- Its only handler. -/
def unnamedHandlers : List Descriptor :=
  [⟨"/", "", "Http"⟩]

/-- The handler is enumerated like any other. -/
theorem enumerate_unnamedResource : Handler.enumerate unnamedResource = .ok unnamedHandlers := by
  refine Handler.enumerate_eq_ok_iff.2 ⟨?_, ?_, ?_⟩
  · decide +kernel
  · decide +kernel
  · decide +kernel

/-- **A type can have the name of the trait**: a run with the usual trait succeeds with one handler
whose type has the name of the trait, and its source defines that name twice. -/
theorem clashes_unnamedResource :
    Handler.enumerate unnamedResource = .ok unnamedHandlers ∧
    (∃ d ∈ unnamedHandlers, d.typeName = ({} : Config).traitName) ∧
    ∃ g file, (run "" {} .dryRun unnamedResource Store.empty).1 = .ok g ∧
      File.read? g.source.toList = some file ∧ ¬ (file.typeNames.map Name.text).Nodup := by
  have htypes : ∀ d ∈ unnamedHandlers, isIdentifier (typeOf d) = true := by decide
  obtain ⟨g, hrun, -, hread⟩ := @exists_run_of_read? "" _ _ _ _ _ trimmed_usualTrait
    enumerate_unnamedResource (read?_template htypes) htypes Store.empty
  refine ⟨enumerate_unnamedResource, by decide +kernel, g, _, hrun, hread, ?_⟩
  rw [typeNames_tree]
  decide

end Scaffold.Generated
