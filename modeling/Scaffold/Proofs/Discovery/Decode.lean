import Scaffold.Discovery.Reader
import Scaffold.Proofs.Json.Record

/-!
# Which texts are discovery documents

The shapes of a document and its parts as relations between JSON values and records, and the
decoder's agreement with them: a text is decoded exactly if it spells a value of the shape of a
document, and is decoded to what the value is read as.

## Main definitions

* `IsNames` - a map from names.
* `Parameter.Shape`, `Method.Shape`, `Resource.Shape`, `Document.Shape` - the shapes.

## Main results

* `reads_parameter`, `reads_method`, `reads_resource`, `reads_document` - the readers.
* `Document.decode_eq_ok_iff` - the decoder.
-/

namespace Scaffold.Discovery

open Json (Tree Reader Slot Lawful Reads Keyed Valued Gives Given NullOr IsText IsBoolean IsList
  IsRecord Spelled)

/-! ### The shapes -/

/-- The tree is a **map from names**: an object whose members' values all have a shape, and
under each name counts the last member. -/
def IsNames (R : Tree → α → Prop) (t : Tree) (m : NameMap α) : Prop :=
  ∃ ms entries values, t = .object ms ∧ Keyed ms entries ∧ Valued R entries values ∧
    ∀ name, m.find? name = (values.reverse.find? fun v => v.1 = name).map (·.2)

/-- The tree has the **shape of a parameter**. -/
def Parameter.Shape (t : Tree) (p : Parameter) : Prop :=
  ∃ type location required,
    Gives [["type"], ["location"], ["required"]] t [type, location, required] ∧
    Given "" IsText type p.type ∧
    Given "" IsText location p.location ∧
    Given false IsBoolean required p.required

/-- The tree has the **shape of a method**. -/
def Method.Shape (t : Tree) (m : Method) : Prop :=
  ∃ httpMethod parameters path flatPath scopes,
    Gives [["httpMethod"], ["parameters"], ["path"], ["flatPath"], ["scopes", "scope"]] t
      [httpMethod, parameters, path, flatPath, scopes] ∧
    Given "" IsText httpMethod m.httpMethod ∧
    Given .empty (IsNames Parameter.Shape) parameters m.parameters ∧
    Given "" IsText path m.path ∧
    Given none (fun t flat => ∃ s, IsText t s ∧ flat = some s) flatPath m.flatPath ∧
    Given [] (IsList IsText) scopes m.scopes

/-- The tree has the **shape of a resource**. -/
def Resource.Shape (t : Tree) (r : Resource) : Prop :=
  ∃ methods, Gives [["methods"]] t [methods] ∧
    Given .empty (IsNames Method.Shape) methods r.methods

/-- The tree has the **shape of a document**. -/
def Document.Shape (t : Tree) (d : Document) : Prop :=
  ∃ name version title resources,
    Gives [["name"], ["version"], ["title"], ["resources"]] t [name, version, title, resources] ∧
    Given "" IsText name d.name ∧
    Given "" IsText version d.version ∧
    Given "" IsText title d.title ∧
    Given .empty (IsNames Resource.Shape) resources d.resources

/-! ### The readers -/

/-- Reading a map from names. -/
theorem reads_namesTo {r : Reader α} {R : Tree → α → Prop} (h : Reads r R) :
    Reads (namesTo r) (IsNames R) := by
  intro ts m rest
  refine (Json.reads_mapOf h .empty SortedMap.insert ts m rest).trans ?_
  have hlast : ∀ values : List (String × α),
      m = values.foldl (fun m v => m.insert v.1 v.2) .empty ↔
        ∀ name, m.find? name = (values.reverse.find? fun v => v.1 = name).map (·.2) := by
    intro values
    constructor
    · rintro rfl name
      exact SortedMap.find?_ofList values name
    · intro hm
      refine SortedMap.ext_find? fun name => ?_
      rw [hm name]
      exact (SortedMap.find?_ofList values name).symm
  simp only [Json.IsMap, hlast, IsNames]

/-- The fields of a parameter. -/
def Parameter.slots : List (Slot Parameter) := [
  ⟨_, "type", [], "", Json.text, IsText, (·.type), fun p v => { p with type := v }⟩,
  ⟨_, "location", [], "", Json.text, IsText, (·.location), fun p v => { p with location := v }⟩,
  ⟨_, "required", [], false, Json.boolean, IsBoolean, (·.required),
    fun p v => { p with required := v }⟩]

/-- The fields of a parameter make it up. -/
theorem Parameter.lawful_slots : Lawful Parameter.slots where
  reads := by
    simp only [slots, List.forall_mem_cons]
    exact ⟨Json.reads_text, Json.reads_text, Json.reads_boolean, nofun⟩
  get_put := by simp [slots]
  apart := by
    simp only [slots, List.pairwise_cons, List.forall_mem_cons]
    refine ⟨⟨?_, ?_, nofun⟩, ⟨?_, nofun⟩, nofun, .nil⟩ <;>
      exact ⟨by decide, fun _ _ => rfl, fun _ _ => rfl⟩
  ext := by
    intro p q h
    simp only [slots, List.forall_mem_cons] at h
    obtain ⟨htype, hlocation, hrequired, -⟩ := h
    cases p
    cases q
    cases htype
    cases hlocation
    cases hrequired
    rfl

/-- The shape of a parameter is that of a record. -/
theorem Parameter.isRecord_iff {t : Tree} {p : Parameter} :
    IsRecord Parameter.slots t p ↔ Parameter.Shape t p := by
  constructor
  · rintro ⟨values, hgives, hgiven⟩
    rcases hgiven with _ | ⟨htype, _ | ⟨hlocation, _ | ⟨hrequired, _ | _⟩⟩⟩
    exact ⟨_, _, _, hgives, htype, hlocation, hrequired⟩
  · rintro ⟨type, location, required, hgives, htype, hlocation, hrequired⟩
    exact ⟨_, hgives, .cons htype (.cons hlocation (.cons hrequired .nil))⟩

/-- Reading a parameter. -/
theorem reads_parameter : Reads Parameter.reader Parameter.Shape :=
  Json.reads_shape Parameter.lawful_slots (by simp [Parameter.slots]) "Parameter" Parameter.isRecord_iff

/-- The fields of a method. -/
def Method.slots : List (Slot Method) := [
  ⟨_, "httpMethod", [], "", Json.text, IsText, (·.httpMethod),
    fun m v => { m with httpMethod := v }⟩,
  ⟨_, "parameters", [], .empty, namesTo Parameter.reader, IsNames Parameter.Shape, (·.parameters),
    fun m v => { m with parameters := v }⟩,
  ⟨_, "path", [], "", Json.text, IsText, (·.path), fun m v => { m with path := v }⟩,
  ⟨_, "flatPath", [], none, Json.optional Json.text,
    NullOr none fun t flat => ∃ s, IsText t s ∧ flat = some s, (·.flatPath),
    fun m v => { m with flatPath := v }⟩,
  ⟨_, "scopes", ["scope"], [], Json.listOf Json.text, IsList IsText, (·.scopes),
    fun m v => { m with scopes := v }⟩]

/-- The fields of a method make it up. -/
theorem Method.lawful_slots : Lawful Method.slots where
  reads := by
    simp only [slots, List.forall_mem_cons]
    exact ⟨Json.reads_text, reads_namesTo reads_parameter, Json.reads_text,
      Json.reads_optional Json.reads_text, Json.reads_listOf Json.reads_text, nofun⟩
  get_put := by simp [slots]
  apart := by
    simp only [slots, List.pairwise_cons, List.forall_mem_cons]
    refine ⟨⟨?_, ?_, ?_, ?_, nofun⟩, ⟨?_, ?_, ?_, nofun⟩, ⟨?_, ?_, nofun⟩, ⟨?_, nofun⟩, nofun,
      .nil⟩ <;>
      exact ⟨by decide, fun _ _ => rfl, fun _ _ => rfl⟩
  ext := by
    intro m n h
    simp only [slots, List.forall_mem_cons] at h
    obtain ⟨hverb, hparameters, hpath, hflat, hscopes, -⟩ := h
    cases m
    cases n
    cases hverb
    cases hparameters
    cases hpath
    cases hflat
    cases hscopes
    rfl

/-- A default for which null stands already. -/
theorem given_nullOr {α : Type} {blank : α} {R : Tree → α → Prop} {value : Option Tree} {a : α} :
    Given blank (NullOr blank R) value a ↔ Given blank R value a := by
  cases value with
  | none => exact Iff.rfl
  | some t => cases t <;> exact Iff.rfl

/-- The shape of a method is that of a record. -/
theorem Method.isRecord_iff {t : Tree} {m : Method} :
    IsRecord Method.slots t m ↔ Method.Shape t m := by
  constructor
  · rintro ⟨values, hgives, hgiven⟩
    rcases hgiven with _ |
      ⟨hverb, _ | ⟨hparameters, _ | ⟨hpath, _ | ⟨hflat, _ | ⟨hscopes, _ | _⟩⟩⟩⟩⟩
    exact ⟨_, _, _, _, _, hgives, hverb, hparameters, hpath, given_nullOr.1 hflat, hscopes⟩
  · rintro ⟨verb, parameters, path, flat, scopes, hgives, hverb, hparameters, hpath, hflat,
      hscopes⟩
    exact ⟨_, hgives, .cons hverb (.cons hparameters (.cons hpath
      (.cons (given_nullOr.2 hflat) (.cons hscopes .nil))))⟩

/-- Reading a method. -/
theorem reads_method : Reads Method.reader Method.Shape :=
  Json.reads_shape Method.lawful_slots (by simp [Method.slots]) "Method" Method.isRecord_iff

/-- The fields of a resource. -/
def Resource.slots : List (Slot Resource) := [
  ⟨_, "methods", [], .empty, namesTo Method.reader, IsNames Method.Shape, (·.methods),
    fun r v => { r with methods := v }⟩]

/-- The fields of a resource make it up. -/
theorem Resource.lawful_slots : Lawful Resource.slots where
  reads := by
    simp only [slots, List.forall_mem_cons]
    exact ⟨reads_namesTo reads_method, nofun⟩
  get_put := by simp [slots]
  apart := .cons nofun .nil
  ext := by
    intro r q h
    simp only [slots, List.forall_mem_cons] at h
    obtain ⟨hmethods, -⟩ := h
    cases r
    cases q
    cases hmethods
    rfl

/-- The shape of a resource is that of a record. -/
theorem Resource.isRecord_iff {t : Tree} {r : Resource} :
    IsRecord Resource.slots t r ↔ Resource.Shape t r := by
  constructor
  · rintro ⟨values, hgives, hgiven⟩
    rcases hgiven with _ | ⟨hmethods, _ | _⟩
    exact ⟨_, hgives, hmethods⟩
  · rintro ⟨methods, hgives, hmethods⟩
    exact ⟨_, hgives, .cons hmethods .nil⟩

/-- Reading a resource. -/
theorem reads_resource : Reads Resource.reader Resource.Shape :=
  Json.reads_shape Resource.lawful_slots (by simp [Resource.slots]) "Resource" Resource.isRecord_iff

/-- The fields of a document. -/
def Document.slots : List (Slot Document) := [
  ⟨_, "name", [], "", Json.text, IsText, (·.name), fun d v => { d with name := v }⟩,
  ⟨_, "version", [], "", Json.text, IsText, (·.version), fun d v => { d with version := v }⟩,
  ⟨_, "title", [], "", Json.text, IsText, (·.title), fun d v => { d with title := v }⟩,
  ⟨_, "resources", [], .empty, namesTo Resource.reader, IsNames Resource.Shape, (·.resources),
    fun d v => { d with resources := v }⟩]

/-- The fields of a document make it up. -/
theorem Document.lawful_slots : Lawful Document.slots where
  reads := by
    simp only [slots, List.forall_mem_cons]
    exact ⟨Json.reads_text, Json.reads_text, Json.reads_text, reads_namesTo reads_resource, nofun⟩
  get_put := by simp [slots]
  apart := by
    simp only [slots, List.pairwise_cons, List.forall_mem_cons]
    refine ⟨⟨?_, ?_, ?_, nofun⟩, ⟨?_, ?_, nofun⟩, ⟨?_, nofun⟩, nofun, .nil⟩ <;>
      exact ⟨by decide, fun _ _ => rfl, fun _ _ => rfl⟩
  ext := by
    intro d e h
    simp only [slots, List.forall_mem_cons] at h
    obtain ⟨hname, hversion, htitle, hresources, -⟩ := h
    cases d
    cases e
    cases hname
    cases hversion
    cases htitle
    cases hresources
    rfl

/-- The shape of a document is that of a record. -/
theorem Document.isRecord_iff {t : Tree} {d : Document} :
    IsRecord Document.slots t d ↔ Document.Shape t d := by
  constructor
  · rintro ⟨values, hgives, hgiven⟩
    rcases hgiven with _ |
      ⟨hname, _ | ⟨hversion, _ | ⟨htitle, _ | ⟨hresources, _ | _⟩⟩⟩⟩
    exact ⟨_, _, _, _, hgives, hname, hversion, htitle, hresources⟩
  · rintro ⟨name, version, title, resources, hgives, hname, hversion, htitle, hresources⟩
    exact ⟨_, hgives, .cons hname (.cons hversion (.cons htitle (.cons hresources .nil)))⟩

/-- Reading a document. -/
theorem reads_document : Reads Document.reader Document.Shape :=
  Json.reads_shape Document.lawful_slots (by simp [Document.slots]) "DiscoveryDocument" Document.isRecord_iff

/-! ### The decoder -/

/-- The **decoder accepts exactly the texts of documents**: it gives a document exactly for the
bytes that spell, with white space around and between the tokens, one value of the shape of a
document, and it gives what the value is read as. -/
theorem Document.decode_eq_ok_iff {bytes : List UInt8} {doc : Document} :
    Document.decode bytes = .ok doc ↔
      ∃ t : Tree, Spelled t.tokens bytes ∧ Document.Shape t doc :=
  Json.whole_tokens_eq_ok_iff reads_document

end Scaffold.Discovery
