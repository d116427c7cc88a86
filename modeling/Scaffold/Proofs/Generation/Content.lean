import Scaffold.Proofs.Discovery.Rewriting
import Scaffold.Proofs.Generation

/-!
# What a run depends on

A run depends on what its document declares: under which names a method stands, and with which
verb and path. It depends neither on how the document is written nor on anything else in it.

## Main results

* `plan_eq_of_declares` - documents that declare the same have the same plan.
* `content_decides` - texts that say the same give one document, and documents that declare the
  same give one result.
-/

namespace Scaffold.Generated

open Discovery (Document)
open Json (Tree Rewrites Within KeysApart Spelled plainContent)

/-! ### Documents that declare the same -/

/-- The descriptors of all methods, by what is declared. -/
theorem describeAll_eq (doc : Document) :
    Handler.describeAll doc = doc.declarations.map fun (resource, name, verb, path) =>
      ⟨Handler.rooted path, verb, Handler.identifierOf resource name⟩ := by
  rw [Document.declarations, List.map_map]
  rfl

/-- The first method without a name, by what is declared. -/
theorem unnamed?_eq (doc : Document) :
    Handler.unnamed? doc =
      (doc.declarations.find? fun (_, name, _) => name.isEmpty).map (·.1) := by
  rw [Document.declarations, List.find?_map, Option.map_map]
  rfl

/-- Documents that declare the same have **the same plan**. -/
theorem plan_eq_of_declares {doc doc' : Document}
    (h : ∀ resource name verb path,
      doc.Declares resource name verb path ↔ doc'.Declares resource name verb path)
    (home : String) (config : Config) : plan home config doc = plan home config doc' := by
  have hsame := Document.declarations_eq h
  have henumerate : Handler.enumerate doc = Handler.enumerate doc' := by
    rw [Handler.enumerate, Handler.enumerate, unnamed?_eq, unnamed?_eq, describeAll_eq,
      describeAll_eq, hsame]
  rw [plan, plan, henumerate]

/-- A run depends on **what its document declares**, and on nothing else. A text in which no object
repeats a key is decoded to the same document however it is rewritten: with other white space, with
its members in another order at any depth, and with other members under keys that the decoder does
not know, as long as these keys stand for texts. And documents that declare the same methods under
the same names, with the same verbs and paths, give the same result in every mode. -/
theorem content_decides :
    (∀ {bytes : List UInt8} {doc : Document}, Document.decode bytes = .ok doc →
      ∃ t : Tree, Spelled t.tokens bytes ∧
        ((∀ g ms, Within Document.form t g (.object ms) → KeysApart ms) →
          ∀ {t' : Tree} {bytes' : List UInt8},
            Relation.ReflTransGen (Rewrites Document.form) t t' → Spelled t'.tokens bytes' →
            Document.decode bytes' = .ok doc)) ∧
    ∀ {doc doc' : Document},
      (∀ resource name verb path,
        doc.Declares resource name verb path ↔ doc'.Declares resource name verb path) →
      ∀ home config mode s, run home config mode doc s = run home config mode doc' s := by
  constructor
  · intro bytes doc hdecode
    obtain ⟨t, ht, -⟩ := (Json.whole_tokens_eq_ok_iff Discovery.reads_document).1 hdecode
    refine ⟨t, ht, fun hapart t' bytes' hrewrites ht' => ?_⟩
    exact Document.decode_rewrites hdecode ht (fun g ms h => hapart _ ms h) hrewrites ht'
  · intro doc doc' h home config mode s
    rw [run, run, plan_eq_of_declares h]

/-- A text with two members. -/
def namedText : List UInt8 :=
  Json.octets "\x7b\"name\":\"a\",\"version\":\"b\"\x7d".toList

/-- The value that it spells. -/
def namedTree : Tree :=
  .object [(plainContent "name", .text (plainContent "a")),
    (plainContent "version", .text (plainContent "b"))]

/-- A text with these members in the other order, and one that is not known between them. -/
def renamedText : List UInt8 :=
  Json.octets "\x7b\"version\" : \"b\", \"x\" : [null, 1e999], \"name\" : \"a\"\x7d".toList

/-- The value that it spells. -/
def renamedTree : Tree :=
  .object [(plainContent "version", .text (plainContent "b")),
    (plainContent "x", .list [.null, .number ⟨false, [1], none, some (false, [9, 9, 9])⟩]),
    (plainContent "name", .text (plainContent "a"))]

/-- A document with one method. -/
def scopedDocument : Document where
  name := "a"
  resources := .ofList [
    ("r", { methods := .ofList [("m", { httpMethod := "GET", path := "p", scopes := ["s"] })] })]

/-- Another document with this method. -/
def flatDocument : Document where
  title := "b"
  resources := .ofList [
    ("q", {}),
    ("r", { methods := .ofList [
      ("m", { httpMethod := "GET", path := "+p", flatPath := some "p" })] })]

/-- Both texts give one document, and both documents one result. -/
theorem content_decides_renamed :
    Spelled namedTree.tokens namedText ∧ Spelled renamedTree.tokens renamedText ∧
      (∃ doc, Document.decode namedText = .ok doc ∧ Document.decode renamedText = .ok doc) ∧
      run "" {} .dryRun scopedDocument Store.empty = run "" {} .dryRun flatDocument Store.empty := by
  have hnamed : Spelled namedTree.tokens namedText := Json.spelled_tree_iff.2 (by decide +kernel)
  have hrenamed : Spelled renamedTree.tokens renamedText :=
    Json.spelled_tree_iff.2 (by decide +kernel)
  refine ⟨hnamed, hrenamed, ?_, ?_⟩
  · have haccepted : ((Document.decode namedText).map fun _ => ()) = .ok () := by decide +kernel
    obtain ⟨doc, hdoc, -⟩ := map_eq_ok_iff.1 haccepted
    obtain ⟨t, ht, hrewrites⟩ := content_decides.1 hdoc
    obtain rfl := hnamed.unique ht
    refine ⟨doc, hdoc, hrewrites ?_ ?_ hrenamed⟩
    · intro g ms hwithin
      cases hwithin with
      | self =>
          refine .cons (fun key hkey name hname hversion => ?_) (List.pairwise_singleton _ _)
          obtain rfl := List.mem_singleton.1 hkey
          have hsame := (hname.unique (Json.means_plainContent "name")).symm.trans
            (hversion.unique (Json.means_plainContent "version"))
          exact absurd hsame (by decide)
      | member hm hwithin =>
          rcases List.mem_cons.1 hm with rfl | hm
          · cases hwithin
          · obtain rfl := List.mem_singleton.1 hm
            cases hwithin
    · have hswapped : Rewrites Document.form namedTree (.object
          ([(plainContent "version", .text (plainContent "b"))] ++
            [(plainContent "name", .text (plainContent "a"))])) := .permute (.swap _ _ _)
      exact (Relation.ReflTransGen.single hswapped).tail
        (.add ⟨Document.fields, "x", rfl, Json.means_plainContent "x", by decide⟩)
  · refine content_decides.2 (fun resource name verb path => ?_) "" {} .dryRun Store.empty
    have hsame : scopedDocument.declarations = flatDocument.declarations := by decide +kernel
    rw [← Document.mem_declarations_iff, hsame, Document.mem_declarations_iff]

end Scaffold.Generated
