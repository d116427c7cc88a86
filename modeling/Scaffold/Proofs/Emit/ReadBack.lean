import Scaffold.Proofs.Config
import Scaffold.Proofs.Emit.Rendered
import Scaffold.Proofs.Source.Format

/-!
# Emitted source, read back

Whatever the paths and verbs of the handlers, emitted source is read as the tree of generated
source: the source is rendered, read as that tree, laid out anew, and read as that tree again.
The mark of a generated file is its header.

## Main results

* `exists_emit_eq_ok` - emitted source exists and is read as the tree.
-/

namespace Scaffold.Emit

open Handler (Descriptor)
open Source Source.Piece

/-! ### The trait -/

/-- A path ends with the name of the trait, behind colons if there are steps. -/
theorem TraitPath.spelling_eq (p : TraitPath) :
    p.spelling = p.name.spelling ∨ ∃ cs, p.spelling = cs ++ ':' :: ':' :: p.name.spelling := by
  rw [TraitPath.spelling]
  rcases List.eq_nil_or_concat p.steps with hsteps | ⟨steps, n, hsteps⟩
  · rw [hsteps]
    exact .inl rfl
  · refine .inr ⟨steps.flatMap (fun n => n.spelling ++ [':', ':']) ++ n.spelling, ?_⟩
    rw [hsteps, List.concat_eq_append, List.flatMap_append, List.flatMap_singleton]
    simp only [List.append_assoc, List.cons_append, List.nil_append]

/-- The name of a trait is **the last name of its path**, whatever blanks stand around the
path. -/
theorem traitName_eq {config : Config} {p : TraitPath}
    (h : Text.trimmed config.handlerTrait = String.ofList p.spelling) :
    config.traitName = String.ofList p.name.spelling := by
  have hname := (isIdentifier_inv p.isNamed).1
  have htrim := String.ofList_injective h
  obtain ⟨front, back, htext, hfront, hback⟩ := Text.exists_trim config.handlerTrait.toList
  have hend : ':' ∉ p.name.spelling ++ back := by
    rw [List.mem_append]
    exact not_or.2 ⟨Name.colon_notMem hname, Config.colon_notMem_of_isBlank hback⟩
  rw [htrim] at htext
  rcases p.spelling_eq with hspelling | ⟨cs, hspelling⟩
  · rw [Config.traitName_of_notMem, h, hspelling]
    rw [htext, hspelling, List.append_assoc, List.mem_append]
    exact not_or.2 ⟨Config.colon_notMem_of_isBlank hfront, hend⟩
  · have hpath : config.handlerTrait.toList =
        (front ++ cs) ++ ':' :: ':' :: (p.name.spelling ++ back) := by
      rw [htext, hspelling]
      simp only [List.append_assoc, List.cons_append]
    rw [Config.traitName_of_append hpath hend]
    exact congrArg String.ofList (@Text.trim_append [] _ _ nofun hback
      (Name.isBlank_eq_false hname) (Name.spelling_ne_nil hname))

/-- A configuration with such a trait is **valid**. -/
theorem trait_eq_ok {config : Config} {p : TraitPath}
    (h : Text.trimmed config.handlerTrait = String.ofList p.spelling) :
    trait config = .ok ⟨String.ofList p.spelling, String.ofList p.name.spelling⟩ := by
  have hname := (isIdentifier_inv p.isNamed).1
  have hne : config.traitName ≠ "" := by
    rw [traitName_eq h]
    exact fun heq => Name.spelling_ne_nil hname (String.ofList_injective heq)
  rw [trait, Config.validate_eq_ok hne, Except.map, Template.Trait.ofConfig, h, traitName_eq h]

/-! ### The source -/

/-- The template has an attribute on its first line. -/
theorem spelling_templatePieces (p : TraitPath) (handlers : List Descriptor) :
    ∃ rest, (templatePieces p handlers).flatMap Piece.spelling =
      "#![allow(non_camel_case_types)]".toList ++ '\n' :: rest :=
  ⟨_, rfl⟩

/-- It begins with neither the mark of the order of bytes nor the name of an interpreter. -/
theorem withoutMark_template (p : TraitPath) (handlers : List Descriptor) :
    withoutMark ((templatePieces p handlers).flatMap Piece.spelling) =
        (templatePieces p handlers).flatMap Piece.spelling ∧
      startsShebang ((templatePieces p handlers).flatMap Piece.spelling) = false := by
  obtain ⟨rest, hrest⟩ := spelling_templatePieces p handlers
  rw [hrest]
  exact ⟨rfl, startsShebang_attribute _⟩

/-- The source behind the header is **read as the tree**. -/
theorem read?_template {p : TraitPath} {handlers : List Descriptor}
    (h : ∀ d ∈ handlers, isIdentifier (typeOf d) = true) :
    File.read? ((templatePieces p handlers).flatMap Piece.spelling) = some (tree p handlers) := by
  obtain ⟨ts, htokens, hlexes⟩ := lexes_body h
  obtain ⟨hmark, hshebang⟩ := withoutMark_template p handlers
  exact File.read?_eq_some hmark hshebang hlexes (htokens.ofTokens?_eq_some h)

/-- The mark of a generated file in front of a source is cut off without a token. -/
theorem lexes_mark {cs : List Char} {ts : List Token} (h : Lexes cs ts) :
    Lexes (Template.mark.toList ++ '\n' :: '\n' :: cs) ts := by
  have hend : dropSeparator? ('\n' :: cs) = some cs := rfl
  have hempty : dropSeparator? ('\n' :: '\n' :: cs) = some ('\n' :: cs) := rfl
  have hline : '\n' ∉ " Code generated by handlergen. DO NOT EDIT!".toList := by decide
  exact Lexes.comment hline (fun _ => rfl) (.drop hempty (.drop hend h))

/-- It is no part of the tree of the source. -/
theorem read?_mark {p : TraitPath} {handlers : List Descriptor}
    (h : ∀ d ∈ handlers, isIdentifier (typeOf d) = true) :
    File.read? (Template.mark.toList ++ '\n' :: '\n' :: Layout.render (tree p handlers).doc) =
      some (tree p handlers) := by
  obtain ⟨ts, htokens, hlexes⟩ := lexes_render h
  exact File.read?_eq_some rfl rfl (lexes_mark hlexes) (htokens.ofTokens?_eq_some h)

/-- The header of the rendered source is the mark. -/
theorem splitHeader_template (p : TraitPath) (handlers : List Descriptor) :
    splitHeader (Template.mark.toList ++ '\n' :: '\n' ::
        (templatePieces p handlers).flatMap Piece.spelling) =
      ([Template.mark.toList], (templatePieces p handlers).flatMap Piece.spelling) := by
  obtain ⟨rest, hrest⟩ := spelling_templatePieces p handlers
  rw [hrest]
  exact splitHeader_append (by decide) (by decide) (by decide)
    (splitHeader_eq_nil (by decide) (by decide) (by decide))

/-- So it is in the source for a configuration. -/
theorem splitHeader_render {config : Config} {p : TraitPath}
    (hpath : Text.trimmed config.handlerTrait = String.ofList p.spelling)
    (handlers : List Descriptor) :
    splitHeader (Template.render (.ofConfig config) handlers).toList =
      ([Template.mark.toList], (templatePieces p handlers).flatMap Piece.spelling) := by
  have htrait : Template.Trait.ofConfig config =
      ⟨String.ofList p.spelling, String.ofList p.name.spelling⟩ := by
    rw [Template.Trait.ofConfig, hpath, traitName_eq hpath]
  rw [htrait, toList_render (p := p) String.toList_ofList String.toList_ofList]
  exact splitHeader_template p handlers

/-- What the template of a configuration is **formatted** to: the mark, and the tree laid out. -/
theorem format_template {config : Config} {p : TraitPath} {handlers : List Descriptor}
    (hpath : Text.trimmed config.handlerTrait = String.ofList p.spelling)
    (htypes : ∀ d ∈ handlers, isIdentifier (typeOf d) = true) :
    format (Template.render (.ofConfig config) handlers) =
      .ok (String.ofList (Template.mark.toList ++ '\n' :: '\n' ::
        Layout.render (tree p handlers).doc)) :=
  format_eq_ok (splitHeader_render hpath handlers) (read?_template htypes)

/-- Emitted source exists, and **is read as the tree** that says just what the path of the trait
and the handlers say. -/
theorem exists_emit_eq_ok {config : Config} {p : TraitPath} {handlers : List Descriptor}
    (hpath : Text.trimmed config.handlerTrait = String.ofList p.spelling)
    (htypes : ∀ d ∈ handlers, isIdentifier (typeOf d) = true) :
    ∃ source, emit config handlers = .ok source ∧
      File.read? source.toList = some (tree p handlers) := by
  have hrender := toList_render (p := p)
    (t := ⟨String.ofList p.spelling, String.ofList p.name.spelling⟩) String.toList_ofList
    String.toList_ofList handlers
  have hheader := splitHeader_template p handlers
  rw [← hrender] at hheader
  have hformat := format_eq_ok hheader (read?_template htypes)
  refine ⟨String.ofList (Template.mark.toList ++ '\n' :: '\n' ::
    Layout.render (tree p handlers).doc), ?_, ?_⟩
  · rw [emit, render, trait_eq_ok hpath, Except.map, Except.bind, hformat]
  · rw [String.toList_ofList]
    exact read?_mark htypes

/-- The path of the usual trait. -/
def usualPath : TraitPath where
  steps := [.ofString "crate"]
  name := .ofString "HttpHandler"
  areSteps := by decide
  isNamed := by decide

/-- It is the path of the trait that a configuration has by default. -/
theorem trimmed_usualTrait :
    Text.trimmed ({} : Config).handlerTrait = String.ofList usualPath.spelling := by
  decide

/-- A handler of the usual trait whose path has to be escaped. -/
theorem exists_emit_usualPath :
    Text.trimmed ({} : Config).handlerTrait = String.ofList usualPath.spelling ∧
      ∃ source, emit {} [⟨"/a\"\\\n\u00e9", "GET", "tablesGet"⟩] = .ok source ∧
        File.read? source.toList =
          some (tree usualPath [⟨"/a\"\\\n\u00e9", "GET", "tablesGet"⟩]) := by
  have hpath : Text.trimmed ({} : Config).handlerTrait = String.ofList usualPath.spelling := by
    decide
  refine ⟨hpath, exists_emit_eq_ok hpath ?_⟩
  intro d hd
  obtain rfl := List.mem_singleton.1 hd
  decide

end Scaffold.Emit
