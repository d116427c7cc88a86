import Scaffold.Proofs.Emit.Parts
import Scaffold.Proofs.Emit.Refusal
import Scaffold.Proofs.Generation

/-!
# Handlers in the generated source

A run that succeeds gives a source with one entry, one assertion and one type for each handler,
provided that the names of the methods have no characters that the template does not keep within a
token: blanks, slashes, hashes and quotes. Names without them that are no identifiers make the run
fail. The names of the types are spelled in different ways; a compiler tells them apart unless the
names of two methods are one text that is spelled in two ways.

The condition cannot be left out: a comment may be opened by one name and closed by another.

## Main definitions

* `NamesApart` - a compiler tells the names of the types apart.
* `commented` - a document whose names open and close a comment.

## Main results

* `keeps_handlers` - what the source of a run has for each handler.
* `merges_commented` - a run that succeeds with two handlers and gives a source with one.
-/

namespace Scaffold.Generated

open Discovery (Document)
open Handler (Descriptor)
open Emit Source

/-! ### The names of types -/

/-- What a table of pairs gives for a key stands in it. -/
theorem mem_of_lookup {α β : Type} [BEq α] [LawfulBEq α] {table : List (α × β)} {a : α} {b : β}
    (h : table.lookup a = some b) : (a, b) ∈ table := by
  induction table with
  | nil => cases h
  | cons entry table ih =>
    rw [List.lookup_cons] at h
    split at h
    · next heq =>
      cases h
      rw [eq_of_beq heq]
      exact List.mem_cons_self
    · exact List.mem_cons_of_mem _ (ih h)

/-- The uppercase form of a character is not empty. -/
theorem uppercase_ne_nil (c : Char) : Text.uppercase c ≠ [] := by
  have htable : ∀ entry ∈ Text.longUppercase, entry.2 ≠ [] := by decide
  unfold Text.uppercase
  split
  · exact List.cons_ne_nil _ _
  · split
    · next hlookup => exact mt List.map_eq_nil_iff.1 (htable _ (mem_of_lookup hlookup))
    · exact List.cons_ne_nil _ _

/-- The identifier of a method with a name is not empty. -/
theorem identifierOf_ne_empty {resource name : String} (h : name ≠ "") :
    Handler.identifierOf resource name ≠ "" := by
  rw [Handler.identifierOf, Handler.capitalized]
  intro heq
  have hnil : resource.toList ++ Text.capitalize name.toList = [] := by
    rw [← String.toList_ofList (l := Text.capitalize name.toList), ← String.toList_append, heq]
    rfl
  have hcapitalized := (List.append_eq_nil_iff.1 hnil).2
  rcases hname : name.toList with _ | ⟨c, rest⟩
  · exact h (String.toList_eq_nil_iff.1 hname)
  · rw [hname, Text.capitalize] at hcapitalized
    exact uppercase_ne_nil c (List.append_eq_nil_iff.1 hcapitalized).1

/-- The name of a type is solid text if the identifier of its handler is. -/
theorem isSolidText_typeName {d : Descriptor} (h : d.identifier.toList.all isSolid = true) :
    IsSolidText d.typeName.toList := by
  have htext : d.typeName.toList = d.identifier.toList ++ "Handler".toList := String.toList_append
  rw [htext]
  constructor
  · rw [List.all_append, h]
    rfl
  · intro c hc
    rw [List.getLast?_append] at hc
    obtain rfl := Option.some.inj hc
    decide

/-- Such a type has the text of its name. -/
theorem text_typeOf {d : Descriptor} (h : d.identifier.toList.all isSolid = true) :
    (typeOf d).text = d.typeName.toList := by
  rw [typeOf, ofSpelling_of_solid (isSolidText_typeName h).solid]

/-- The text of a name tells the handler. -/
theorem nodup_typeOf {handlers : List Descriptor}
    (hsolid : ∀ d ∈ handlers, d.identifier.toList.all isSolid = true)
    (h : (handlers.map Descriptor.identifier).Nodup) :
    ((handlers.map typeOf).map Name.text).Nodup := by
  rw [List.map_map]
  refine List.pairwise_map.2 ((List.pairwise_map.1 h).imp_of_mem fun ha hb hne heq => hne ?_)
  rw [Function.comp_apply, Function.comp_apply, text_typeOf (hsolid _ ha),
    text_typeOf (hsolid _ hb), Descriptor.typeName, Descriptor.typeName, String.toList_append,
    String.toList_append] at heq
  exact String.toList_inj.1 (List.append_cancel_right heq)

/-- The names of types **differ in their normal forms** just if the names that the handlers give
them do. -/
theorem nodup_normal_iff {handlers : List Descriptor}
    (hsolid : ∀ d ∈ handlers, d.identifier.toList.all isSolid = true)
    (h : (handlers.map Descriptor.identifier).Nodup) :
    ((handlers.map typeOf).map Name.normal).Nodup ↔ ∀ d ∈ handlers, ∀ e ∈ handlers,
      Text.normalForm d.typeName.toList = Text.normalForm e.typeName.toList →
        d.identifier = e.identifier := by
  have hnormal : (handlers.map typeOf).map Name.normal =
      handlers.map fun d => Text.normalForm d.typeName.toList := by
    rw [List.map_map]
    exact List.map_congr_left fun d hd => congrArg Text.normalForm (text_typeOf (hsolid d hd))
  rw [hnormal, List.nodup_map_iff_inj_on h.of_map]
  refine forall₂_congr fun d hd => forall₂_congr fun e he => imp_congr_right fun _ => ?_
  exact ⟨congrArg _, List.inj_on_of_nodup_map h hd he⟩

/-- The handlers of a document are those of its methods. -/
theorem mem_handlers_iff {doc : Document} {handlers : List Descriptor}
    (h : Handler.enumerate doc = .ok handlers) {d : Descriptor} :
    d ∈ handlers ↔
      ∃ resource name m, doc.HasMethod resource name m ∧ Handler.describe resource name m = d := by
  obtain ⟨-, -, hperm⟩ := Handler.enumerate_eq_ok_iff.1 h
  rw [hperm.mem_iff, Handler.describeAll, List.mem_map]
  constructor
  · rintro ⟨⟨resource, name, m⟩, hentry, rfl⟩
    exact ⟨resource, name, m, Document.mem_methods_iff.1 hentry, rfl⟩
  · rintro ⟨resource, name, m, hm, rfl⟩
    exact ⟨(resource, name, m), Document.mem_methods_iff.2 hm, rfl⟩

/-- The identifiers of handlers are not empty. -/
theorem identifier_ne_empty {doc : Document} {handlers : List Descriptor}
    (h : Handler.enumerate doc = .ok handlers) {d : Descriptor} (hd : d ∈ handlers) :
    d.identifier ≠ "" := by
  obtain ⟨hnames, -, -⟩ := Handler.enumerate_eq_ok_iff.1 h
  obtain ⟨resource, name, m, hm, rfl⟩ := (mem_handlers_iff h).1 hd
  exact identifierOf_ne_empty (hnames _ (Document.mem_methods_iff.2 hm))

/-- So no handler has the name of the **type of the entries**. -/
theorem typeName_ne_handler {d : Descriptor} (h : d.identifier ≠ "") : d.typeName ≠ "Handler" := by
  intro heq
  have htext : d.identifier.toList ++ "Handler".toList = "Handler".toList := by
    rw [← String.toList_append, ← Descriptor.typeName, heq]
  exact h (String.toList_eq_nil_iff.1 (List.append_left_eq_self.1 htext))

/-- A compiler **tells the names of the types apart** that the methods of a document have: two that
have one normal form are spelled in one way. -/
def NamesApart (doc : Document) : Prop :=
  ∀ resource name m resource' name' m', doc.HasMethod resource name m →
    doc.HasMethod resource' name' m' →
    Text.normalForm (Handler.identifierOf resource name ++ "Handler").toList =
      Text.normalForm (Handler.identifierOf resource' name' ++ "Handler").toList →
    Handler.identifierOf resource name = Handler.identifierOf resource' name'

/-- It does if **each of the names is its own normal form**. -/
theorem namesApart_of_normal {doc : Document}
    (h : ∀ resource name m, doc.HasMethod resource name m →
      Text.normalForm (Handler.identifierOf resource name ++ "Handler").toList =
        (Handler.identifierOf resource name ++ "Handler").toList) : NamesApart doc := by
  intro resource name m resource' name' m' hm hm' heq
  rw [h _ _ _ hm, h _ _ _ hm', String.toList_append, String.toList_append] at heq
  exact String.toList_inj.1 (List.append_cancel_right heq)

/-- The names of the types are those of the handlers. -/
theorem namesApart_iff {doc : Document} {handlers : List Descriptor}
    (h : Handler.enumerate doc = .ok handlers) :
    NamesApart doc ↔ ∀ d ∈ handlers, ∀ e ∈ handlers,
      Text.normalForm d.typeName.toList = Text.normalForm e.typeName.toList →
        d.identifier = e.identifier := by
  constructor
  · intro hapart d hd e he
    obtain ⟨resource, name, m, hm, rfl⟩ := (mem_handlers_iff h).1 hd
    obtain ⟨resource', name', m', hm', rfl⟩ := (mem_handlers_iff h).1 he
    exact hapart resource name m resource' name' m' hm hm'
  · intro hapart resource name m resource' name' m' hm hm'
    exact hapart (Handler.describe resource name m)
      ((mem_handlers_iff h).2 ⟨resource, name, m, hm, rfl⟩) (Handler.describe resource' name' m')
      ((mem_handlers_iff h).2 ⟨resource', name', m', hm', rfl⟩)

/-! ### Sources that are read back -/

/-- What a run gives whose template is **read as the tree of some handlers**, be they its own or
not. -/
theorem exists_run_of_read? {home : String} {config : Config} {doc : Document} {p : TraitPath}
    {handlers others : List Descriptor}
    (hpath : Text.trimmed config.handlerTrait = String.ofList p.spelling)
    (hhandlers : Handler.enumerate doc = .ok handlers)
    (hread : File.read? ((templatePieces p handlers).flatMap Piece.spelling) =
      some (tree p others))
    (hothers : ∀ d ∈ others, isIdentifier (typeOf d) = true) (s : Store) :
    ∃ g, (run home config .dryRun doc s).1 = .ok g ∧ g.handlerCount = handlers.length ∧
      File.read? g.source.toList = some (tree p others) := by
  have hvalid : config.validate = .ok () := by
    have htrait := trait_eq_ok hpath
    rw [trait] at htrait
    obtain ⟨_, hvalid, -⟩ := map_eq_ok_iff.1 htrait
    exact hvalid
  have hsource := format_eq_ok (splitHeader_render hpath handlers) hread
  have hplan := @plan_eq_ok home _ _ _ _ hhandlers hvalid hsource
  refine ⟨_, by rw [run_of_plan_ok hplan]; rfl, rfl, ?_⟩
  dsimp only
  rw [String.toList_ofList]
  exact read?_mark hothers

/-- A run that succeeds has enumerated the handlers, and its source is **read as the tree** of
them, provided that their identifiers are solid text. -/
theorem exists_handlers_of_run {home : String} {config : Config} {mode : Mode} {doc : Document}
    {s : Store} {g : Generated} (hrun : (run home config mode doc s).1 = .ok g) :
    ∃ handlers, Handler.enumerate doc = .ok handlers ∧ g.handlerCount = handlers.length ∧
      ∀ p : TraitPath, Text.trimmed config.handlerTrait = String.ofList p.spelling →
        (∀ d ∈ handlers, d.identifier.toList.all isSolid = true) →
        File.read? g.source.toList = some (tree p handlers) := by
  obtain ⟨handlers, source, hhandlers, hsource, rfl⟩ := plan_eq_ok_inv (plan_of_run_eq_ok hrun)
  refine ⟨handlers, hhandlers, rfl, fun p hpath hsolid => ?_⟩
  have htypes := isIdentifier_of_format hpath (fun d hd => isSolidText_typeName (hsolid d hd))
    hsource
  rw [format_template hpath htypes] at hsource
  cases hsource
  dsimp only
  rw [String.toList_ofList]
  exact read?_mark htypes

/-- **No handler is lost or merged** in a run that succeeds, provided that no identifier of a
handler has a character that separates tokens, a slash, a hash or a quote. Its source is read as a
file with as many entries, assertions and types of handlers as there are methods. The names of these
types are spelled in different ways, and a compiler tells them apart just if it does so with the
names that the methods of the document give. -/
theorem keeps_handlers {home : String} {config : Config} {mode : Mode} {doc : Document} {s : Store}
    {g : Generated} {p : TraitPath}
    (hpath : Text.trimmed config.handlerTrait = String.ofList p.spelling)
    (hsolid : ∀ resource name m, doc.HasMethod resource name m →
      (resource ++ Handler.capitalized name).toList.all isSolid = true)
    (hrun : (run home config mode doc s).1 = .ok g) :
    ∃ file, File.read? g.source.toList = some file ∧ g.handlerCount = doc.methodCount ∧
      file.entries.length = g.handlerCount ∧ file.assertions.length = g.handlerCount ∧
      file.handlerTypes.length = g.handlerCount ∧ (file.handlerTypes.map Name.text).Nodup ∧
      ((file.handlerTypes.map Name.normal).Nodup ↔ NamesApart doc) := by
  obtain ⟨handlers, hhandlers, hcount, hread⟩ := exists_handlers_of_run hrun
  obtain ⟨-, hascending, hperm⟩ := Handler.enumerate_eq_ok_iff.1 hhandlers
  have hnodup := Handler.nodup_of_ascending hascending
  have hidentifier : ∀ d ∈ handlers, d.identifier.toList.all isSolid = true := by
    intro d hd
    obtain ⟨resource, name, m, hm, rfl⟩ := (mem_handlers_iff hhandlers).1 hd
    exact hsolid resource name m hm
  have hother : ∀ d ∈ handlers, typeOf d ≠ .ofString "Handler" := by
    intro d hd heq
    have htext := text_typeOf (hidentifier d hd)
    rw [heq] at htext
    exact typeName_ne_handler (identifier_ne_empty hhandlers hd) (String.toList_inj.1 htext.symm)
  rw [hcount]
  refine ⟨tree p handlers, hread p hpath hidentifier, ?_, ?_, ?_, ?_, ?_, ?_⟩
  · rw [← doc.length_methods, hperm.length_eq, Handler.describeAll, List.length_map]
  · rw [entries_tree, List.length_map]
  · rw [assertions_tree, List.length_map]
  · rw [handlerTypes_tree p hother, List.length_map]
  · rw [handlerTypes_tree p hother]
    exact nodup_typeOf hidentifier hnodup
  · rw [handlerTypes_tree p hother, namesApart_iff hhandlers]
    exact nodup_normal_iff hidentifier hnodup

/-- The handlers of the two resources. -/
def twoHandlers : List Descriptor :=
  [⟨"/a/{b}", "GET", "aBC"⟩, ⟨"/y", "", "aBD"⟩]

/-- The two resources give two handlers. -/
theorem enumerate_twoHandlers : Handler.enumerate Handler.twoResources = .ok twoHandlers := by
  refine Handler.enumerate_eq_ok_iff.2 ⟨?_, ?_, ?_⟩
  · decide +kernel
  · decide +kernel
  · decide +kernel

/-- The names of their types are their own normal forms. -/
theorem namesApart_twoResources : NamesApart Handler.twoResources := by
  have hall : ∀ entry ∈ Handler.twoResources.methods,
      (Handler.identifierOf entry.1 entry.2.1 ++ "Handler").toList.all (·.toNat < 0xC0) = true := by
    decide +kernel
  exact namesApart_of_normal fun resource name m hm =>
    Text.normalForm_eq_self (hall (resource, name, m) (Document.mem_methods_iff.2 hm))

/-- Both handlers are kept. -/
theorem keeps_twoHandlers :
    (∀ resource name m, Handler.twoResources.HasMethod resource name m →
      (resource ++ Handler.capitalized name).toList.all isSolid = true) ∧
    ∃ g file, (run "" {} .dryRun Handler.twoResources Store.empty).1 = .ok g ∧
      File.read? g.source.toList = some file ∧ g.handlerCount = 2 ∧ file.entries.length = 2 ∧
      file.assertions.length = 2 ∧ file.handlerTypes.length = 2 ∧
      (file.handlerTypes.map Name.normal).Nodup := by
  have hpath : Text.trimmed ({} : Config).handlerTrait = String.ofList usualPath.spelling := by
    decide
  have htypes : ∀ d ∈ twoHandlers, isIdentifier (typeOf d) = true := by decide
  have hsolid : ∀ resource name m, Handler.twoResources.HasMethod resource name m →
      (resource ++ Handler.capitalized name).toList.all isSolid = true := by
    have hall : ∀ entry ∈ Handler.twoResources.methods,
        (entry.1 ++ Handler.capitalized entry.2.1).toList.all isSolid = true := by decide +kernel
    exact fun resource name m hm => hall _ (Document.mem_methods_iff.2 hm)
  obtain ⟨g, hrun, hcount, -⟩ := @exists_run_of_read? "" _ _ _ _ _ hpath enumerate_twoHandlers
    (read?_template htypes) htypes Store.empty
  obtain ⟨file, hread, -, hentries, hassertions, htypes, -, hapart⟩ :=
    keeps_handlers hpath hsolid hrun
  have hlength : twoHandlers.length = 2 := rfl
  rw [hlength] at hcount
  rw [hcount] at hentries hassertions htypes
  exact ⟨hsolid, g, file, hrun, hread, hcount, hentries, hassertions, htypes,
    hapart.2 namesApart_twoResources⟩

/-- A document of two methods with one name, which is spelled once as one character and once as a
letter and a mark. -/
def accented : Document where
  resources := .ofList [("a", { methods := .ofList [("\u00E9", {}), ("e\u0301", {})] })]

/-- A compiler does not tell their types apart. -/
example : ¬ NamesApart accented := by
  intro h
  have hone := h "a" "\u00E9" {} "a" "e\u0301" {} ⟨_, rfl, rfl⟩ ⟨_, rfl, rfl⟩ (by decide +kernel)
  exact absurd hone (by decide +kernel)

/-! ### A comment across names -/

/-- A document of two methods: the name of the one opens a comment, and that of the other closes
it. -/
def commented : Document where
  resources := .ofList [
    (" ", { methods := .ofList [("/*", {})] }),
    ("*", { methods := .ofList [("/c", {})] })]

/-- Its handlers. -/
def commentedHandlers : List Descriptor :=
  [⟨"/", "", " /*"⟩, ⟨"/", "", "*/c"⟩]

/-- Neither name can stand for a type, and yet there are two handlers. -/
theorem enumerate_commented : Handler.enumerate commented = .ok commentedHandlers := by
  refine Handler.enumerate_eq_ok_iff.2 ⟨?_, ?_, ?_⟩
  · decide +kernel
  · decide +kernel
  · decide +kernel

/-- The handler that is read in their place: what stands between the first opening of the comment
and its first end is lost. -/
def mergedHandlers : List Descriptor :=
  [⟨"/", "", "c"⟩]

/-- The template of two handlers is read as the tree of one. -/
theorem read?_commented :
    File.read? ((templatePieces usualPath commentedHandlers).flatMap Piece.spelling) =
      some (tree usualPath mergedHandlers) := by
  have htypes : ∀ d ∈ mergedHandlers, isIdentifier (typeOf d) = true := by decide
  have hlexes : Lexes ((templatePieces usualPath commentedHandlers).flatMap Piece.spelling)
      ((templatePieces usualPath mergedHandlers).flatMap Piece.tokens) :=
    tokens?_eq_some_iff.1 (by decide +kernel)
  obtain ⟨hmark, hshebang⟩ := withoutMark_template usualPath commentedHandlers
  exact File.read?_eq_some hmark hshebang hlexes
    ((tokens_template usualPath mergedHandlers).ofTokens?_eq_some htypes)

/-- **A run can merge handlers** where names have slashes: it succeeds with two handlers, and its
source has one entry, one assertion and one type. -/
theorem merges_commented :
    Text.trimmed ({} : Config).handlerTrait = String.ofList usualPath.spelling ∧
    ∃ g file, (run "" {} .dryRun commented Store.empty).1 = .ok g ∧
      File.read? g.source.toList = some file ∧ g.handlerCount = 2 ∧ file.entries.length = 1 ∧
      file.assertions.length = 1 ∧ file.handlerTypes.length = 1 := by
  have hpath : Text.trimmed ({} : Config).handlerTrait = String.ofList usualPath.spelling := by
    decide
  have htypes : ∀ d ∈ mergedHandlers, isIdentifier (typeOf d) = true := by decide
  have hother : ∀ d ∈ mergedHandlers, typeOf d ≠ .ofString "Handler" := by decide
  obtain ⟨g, hrun, hcount, hread⟩ := @exists_run_of_read? "" _ _ _ _ _ hpath enumerate_commented
    read?_commented htypes Store.empty
  refine ⟨hpath, g, _, hrun, hread, hcount, ?_, ?_, ?_⟩
  · rw [entries_tree]
    rfl
  · rw [assertions_tree]
    rfl
  · rw [handlerTypes_tree usualPath hother]
    rfl

end Scaffold.Generated
