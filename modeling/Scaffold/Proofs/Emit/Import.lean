import Scaffold.Emit
import Scaffold.Proofs.Config
import Scaffold.Proofs.Except

/-!
# The import of the trait

Generated source imports the trait by its path, and then calls it by its name. The path is trimmed
as a whole, while the name is cut from the path as it was given and is trimmed then. The two agree
all the same: the path that is imported ends with the name, and white space around the path that
was given changes neither.

## Main definitions

* `LeadsTo` - the paths that a name can be imported by.
* `IsName` - the texts that a path can end with.
* `surround` - a configuration with texts around the path of its trait.

## Main results

* `exists_render` - the path and the name are all that the source has of a trait.
* `leadsTo_traitName` - the path that is imported ends with the name.
* `ofConfig_surround` - white space around the path does not matter.
* `import_agrees` - the path leads to the name, and a path is refused if there is none to lead to.
-/

namespace Scaffold.Emit

open Handler (Descriptor)
open Config (EndsIn)

/-- A path **leads to a name**: it is the name, or ends with it behind a separator and white
space. -/
inductive LeadsTo : List Char → List Char → Prop
  | alone (name : List Char) : LeadsTo name name
  | behind (front : List Char) {gap : List Char} (name : List Char) :
      (∀ c ∈ gap, Text.isBlank c = true) → LeadsTo (front ++ ':' :: ':' :: (gap ++ name)) name

/-- A text can be a **name**: it is not empty, has no separator, and neither begins nor ends with
white space. -/
structure IsName (name : List Char) : Prop where
  nonempty : name ≠ []
  undivided : ¬ [':', ':'] <:+: name
  begins : ∀ c ∈ name.head?, Text.isBlank c = false
  ends : ∀ c ∈ name.getLast?, Text.isBlank c = false

/-! ### The name within the path -/

section Segment

variable {cs part : List Char}

/-- A trimmed text leads to the trimmed segment that it ends in. -/
theorem leadsTo_trim (h : EndsIn cs part) (hne : Text.trim part ≠ []) :
    LeadsTo (Text.trim cs) (Text.trim part) := by
  cases h with
  | whole h => exact .alone _
  | behind h =>
    -- the colons keep what is trimmed in front of the path from what is trimmed behind it
    obtain ⟨gap, hpart, hgap⟩ := Text.exists_trimRight_of_ne_nil hne
    rw [Text.trim_append_cons_cons (by decide) (by decide), hpart]
    exact .behind _ _ hgap

/-- The segment, trimmed, can be a name unless nothing is left of it. -/
theorem isName_trim (h : EndsIn cs part) (hne : Text.trim part ≠ []) :
    IsName (Text.trim part) where
  nonempty := hne
  undivided hseparator := by
    obtain ⟨front, back, hpart, -, -⟩ := Text.exists_trim part
    exact h.undivided (hseparator.trans ⟨front, back, hpart.symm⟩)
  begins _ := Text.head?_trim
  ends _ := Text.getLast?_trim

end Segment

/-- The path of a valid configuration **leads to the name** of the trait. -/
theorem leadsTo_traitName {config : Config} (h : config.validate = .ok ()) :
    LeadsTo (Text.trimmed config.handlerTrait).toList config.traitName.toList ∧
      IsName config.traitName.toList := by
  have hpart := Config.endsIn_lastSegment config.handlerTrait.toList
  have hname := Config.traitName_of_endsIn hpart
  have hne : Text.trim (Config.lastSegment config.handlerTrait.toList) ≠ [] := by
    intro hnil
    rw [hnil, String.ofList_nil] at hname
    exact Config.validate_eq_ok_iff.1 h hname
  rw [hname, Text.trimmed, String.toList_ofList, String.toList_ofList]
  exact ⟨leadsTo_trim hpart hne, isName_trim hpart hne⟩

/-! ### The path and the name within the source -/

/-- The path and the name within the lines in front of the entries. -/
theorem exists_head : ∃ start fields table, ∀ t : Template.Trait, Template.head t =
    start ++ "use " ++ t.path ++ ";" ++ fields ++ "dyn " ++ t.name ++ " + Sync" ++ table := by
  refine ⟨Template.mark ++ "\n\n#![allow(non_camel_case_types)]\n\n",
    "\n\n" ++ "pub struct Handler \x7b\n" ++ "    pub path: &'static str,\n" ++
      "    pub http_method: &'static str,\n" ++ "    pub handler: &'static (",
    "),\n" ++ "\x7d\n\npub static HANDLERS: &[Handler] = &[", fun t => ?_⟩
  -- the literals of the template are cut where they meet the path and the name
  have himport : "\n\n#![allow(non_camel_case_types)]\n\nuse " =
      "\n\n#![allow(non_camel_case_types)]\n\n" ++ "use " := by simp
  have hend : ";\n\n" = ";" ++ "\n\n" := by simp
  have hfield : "    pub handler: &'static (dyn " = "    pub handler: &'static (" ++ "dyn " := by
    simp
  have hbound : " + Sync),\n" = " + Sync" ++ "),\n" := by simp
  unfold Template.head
  rw [himport, hend, hfield, hbound]
  simp only [String.append_assoc]

/-- The name within the lines between the entries and the assertions. -/
theorem exists_middle : ∃ start rest, ∀ t : Template.Trait, Template.middle t =
    start ++ "<T: " ++ t.name ++ " + Sync>" ++ rest := by
  refine ⟨"\n];\n\nconst _: fn() = || \x7b\n    fn assert_handler", "() \x7b\x7d", fun t => ?_⟩
  have hstart : "\n];\n\nconst _: fn() = || \x7b\n    fn assert_handler<T: " =
      "\n];\n\nconst _: fn() = || \x7b\n    fn assert_handler" ++ "<T: " := by simp
  have hbound : " + Sync>() \x7b\x7d" = " + Sync>" ++ "() \x7b\x7d" := by simp
  unfold Template.middle
  rw [hstart, hbound]
  simp only [String.append_assoc]

/-- The source is **the same for every trait**, but for the path in the import, and the name in the
type of the entries and in the bound of the assertions. -/
theorem exists_render (handlers : List Descriptor) :
    ∃ start fields table rest, ∀ t : Template.Trait, Template.render t handlers =
      start ++ "use " ++ t.path ++ ";" ++ fields ++ "dyn " ++ t.name ++ " + Sync" ++ table ++
        "<T: " ++ t.name ++ " + Sync>" ++ rest := by
  obtain ⟨start, fields, table, hhead⟩ := exists_head
  obtain ⟨tableEnd, rest, hmiddle⟩ := exists_middle
  refine ⟨start, fields, table ++ String.join (handlers.map Template.entry) ++ tableEnd,
    rest ++ String.join (handlers.map Template.assertion) ++ "\n\x7d;\n" ++
      String.join (handlers.map Template.declaration) ++ "\n", fun t => ?_⟩
  simp only [Template.render, hhead, hmiddle, String.append_assoc]

/-- A configuration gives source just if it is valid. -/
theorem render_eq_ok_iff {config : Config} {handlers : List Descriptor} {text : String} :
    render config handlers = .ok text ↔
      config.validate = .ok () ∧ Template.render (.ofConfig config) handlers = text := by
  rw [render, map_eq_ok_iff]
  constructor
  · rintro ⟨t, htrait, htext⟩
    obtain ⟨_, hvalid, rfl⟩ := map_eq_ok_iff.1 htrait
    exact ⟨hvalid, htext⟩
  · rintro ⟨hvalid, htext⟩
    exact ⟨_, map_eq_ok_iff.2 ⟨(), hvalid, rfl⟩, htext⟩

/-! ### White space around the path -/

/-- A configuration with texts put around the path of its trait. -/
def surround (front : String) (config : Config) (back : String) : Config :=
  { config with handlerTrait := front ++ config.handlerTrait ++ back }

/-- The characters of that path. -/
theorem toList_surround (front : String) (config : Config) (back : String) :
    (surround front config back).handlerTrait.toList =
      front.toList ++ config.handlerTrait.toList ++ back.toList := by
  rw [surround, String.toList_append, String.toList_append]

section Surrounded

variable {front back : String} (config : Config)
  (hfront : ∀ c ∈ front.toList, Text.isBlank c = true)
  (hback : ∀ c ∈ back.toList, Text.isBlank c = true)

include hfront hback

/-- The **name does not depend** on white space around the path. -/
theorem traitName_surround : (surround front config back).traitName = config.traitName := by
  have hpart := Config.endsIn_lastSegment config.handlerTrait.toList
  obtain ⟨surrounded, hends, htrim⟩ := hpart.exists_surrounded hfront hback
  rw [← toList_surround] at hends
  rw [Config.traitName_of_endsIn hends, htrim, Config.traitName_of_endsIn hpart]

/-- Nor does **what the template takes** from the configuration. -/
theorem ofConfig_surround :
    Template.Trait.ofConfig (surround front config back) = .ofConfig config := by
  have hpath : Text.trimmed (surround front config back).handlerTrait =
      Text.trimmed config.handlerTrait := by
    rw [Text.trimmed, toList_surround, Text.trim_append_blank hback, Text.trim_blank_append hfront,
      Text.trimmed]
  rw [Template.Trait.ofConfig, hpath, traitName_surround config hfront hback,
    Template.Trait.ofConfig]

/-- Nor does it matter whether the configuration is valid. -/
theorem validate_surround_iff :
    (surround front config back).validate = .ok () ↔ config.validate = .ok () := by
  rw [Config.validate_eq_ok_iff, traitName_surround config hfront hback, Config.validate_eq_ok_iff]

end Surrounded

/-! ### The import -/

/-- **The path and the name agree.** The path of a valid configuration, trimmed for the import,
leads to the name that the source calls the trait by; a configuration is refused just if there is
only white space behind the last separator; and white space around the path changes neither this
nor the source. -/
theorem import_agrees :
    (∀ config : Config, config.validate = .ok () →
      LeadsTo (Text.trimmed config.handlerTrait).toList config.traitName.toList ∧
      IsName config.traitName.toList) ∧
    (∀ handlers : List Descriptor, ∃ start fields table rest, ∀ config : Config,
      config.validate = .ok () → render config handlers =
        .ok (start ++ "use " ++ Text.trimmed config.handlerTrait ++ ";" ++ fields ++
          "dyn " ++ config.traitName ++ " + Sync" ++ table ++
          "<T: " ++ config.traitName ++ " + Sync>" ++ rest)) ∧
    (∀ (config : Config) (e : Error), config.validate = .error e ↔
      e = .config config.handlerTrait ∧
        ∃ part, EndsIn config.handlerTrait.toList part ∧ ∀ c ∈ part, Text.isBlank c = true) ∧
    ∀ (config : Config) (front back : String),
      (∀ c ∈ front.toList, Text.isBlank c = true) → (∀ c ∈ back.toList, Text.isBlank c = true) →
      ((surround front config back).validate = .ok () ↔ config.validate = .ok ()) ∧
      ∀ handlers text, render (surround front config back) handlers = .ok text ↔
        render config handlers = .ok text := by
  refine ⟨fun config => leadsTo_traitName, fun handlers => ?_, fun config e => ?_,
    fun config front back hfront hback => ?_⟩
  · obtain ⟨start, fields, table, rest, hrender⟩ := exists_render handlers
    refine ⟨start, fields, table, rest, fun config hvalid => ?_⟩
    exact render_eq_ok_iff.2 ⟨hvalid, hrender (.ofConfig config)⟩
  · rw [Config.validate_eq_error_iff, Config.traitName_eq_empty_iff]
  · have hverdict := validate_surround_iff config hfront hback
    refine ⟨hverdict, fun handlers text => ?_⟩
    rw [render_eq_ok_iff, render_eq_ok_iff, hverdict, ofConfig_surround config hfront hback]

/-- A trait whose path has three colons in a row, a line end behind them and a colon in its name. -/
def colonTrait : Config where
  handlerTrait := "crate:::\u0085Http:Handler"

/-- The path leads past the line end to the name, and stays the same between white space. -/
theorem import_agrees_colonTrait :
    colonTrait.validate = .ok () ∧
    LeadsTo colonTrait.handlerTrait.toList "Http:Handler".toList ∧
    IsName "Http:Handler".toList ∧
    (∃ start fields table rest, render colonTrait [] = .ok (start ++ "use " ++
      colonTrait.handlerTrait ++ ";" ++ fields ++ "dyn " ++ "Http:Handler" ++ " + Sync" ++ table ++
      "<T: " ++ "Http:Handler" ++ " + Sync>" ++ rest)) ∧
    (Config.validate ⟨none, "crate::\u2003\t"⟩ = .error (.config "crate::\u2003\t")) ∧
    (∀ c ∈ "\u3000".toList, Text.isBlank c = true) ∧
    (∀ c ∈ "\t\u2028".toList, Text.isBlank c = true) ∧
    render (surround "\u3000" colonTrait "\t\u2028") [] =
      .ok (Template.render ⟨colonTrait.handlerTrait, "Http:Handler"⟩ []) := by
  have hvalid : colonTrait.validate = .ok () := rfl
  have hpath : Text.trimmed colonTrait.handlerTrait = colonTrait.handlerTrait := by decide
  have hname : colonTrait.traitName = "Http:Handler" := by decide
  have hfront : ∀ c ∈ "\u3000".toList, Text.isBlank c = true :=
    List.all_eq_true.1 (by decide)
  have hback : ∀ c ∈ "\t\u2028".toList, Text.isBlank c = true :=
    List.all_eq_true.1 (by decide)
  have hnameless : ∀ c ∈ "\u2003\t".toList, Text.isBlank c = true :=
    List.all_eq_true.1 (by decide)
  obtain ⟨hleads, hrender, hrefused, hsurrounded⟩ := import_agrees
  obtain ⟨hpathLeads, hisName⟩ := hleads colonTrait hvalid
  obtain ⟨start, fields, table, rest, htext⟩ := hrender []
  have hcolon := htext colonTrait hvalid
  rw [hpath, hname] at hpathLeads hcolon
  rw [hname] at hisName
  refine ⟨hvalid, hpathLeads, hisName, ⟨start, fields, table, rest, hcolon⟩, ?_, hfront, hback, ?_⟩
  · refine (hrefused ⟨none, "crate::\u2003\t"⟩ _).2 ⟨rfl, "\u2003\t".toList, ?_, hnameless⟩
    exact Config.lastSegment_eq_iff.1 (by decide)
  · refine ((hsurrounded colonTrait _ _ hfront hback).2 [] _).2 ?_
    have htrait : Template.Trait.ofConfig colonTrait =
        ⟨colonTrait.handlerTrait, "Http:Handler"⟩ := by
      rw [Template.Trait.ofConfig, hpath, hname]
    rw [← htrait]
    exact render_eq_ok_iff.2 ⟨hvalid, rfl⟩

end Scaffold.Emit
