import Scaffold.Proofs.Emit.ReadBack

/-!
# Emitted source is formatted

Formatting emitted source changes nothing in it. Its header is split off as it was put on, since
the layout of the tree begins with the attribute on a line of its own, and the rest is read as the
tree that it is the layout of. How the widths of names break the lines further down does not
matter: the same tree is laid out again.

## Main results

* `render_tree` - the first line of the tree, laid out.
* `splitHeader_emitted` - the header of emitted source.
* `format_emit` - emitted source is what it is formatted to.
-/

namespace Scaffold.Layout

/-- What vanishes at the end of documents is part of their width. -/
theorem vanishingWidth_le_widthAll (docs : List Doc) : vanishingWidth docs ≤ widthAll docs := by
  fun_induction vanishingWidth docs with
  | case1 => exact Nat.zero_le _
  | case2 g _ => exact Nat.le_refl g.blank
  | case3 g _ => exact Nat.zero_le _
  | case4 d rest _ ih => exact Nat.le_trans ih (Nat.le_add_left _ _)

/-- Documents in which a line ends are **wider than any line**. -/
theorem endless_add_le_widthAll {docs : List Doc} (h : Doc.lineEnd ∈ docs) :
    endless + vanishingWidth docs ≤ widthAll docs := by
  induction docs with
  | nil => cases h
  | cons d docs ih =>
    have hwidth : widthAll (d :: docs) = d.width + widthAll docs := rfl
    rcases List.mem_cons.1 h with rfl | h
    · have hend : Doc.lineEnd.width = endless := rfl
      cases docs with
      | nil => exact Nat.le_refl endless
      | cons e more =>
        have hle := vanishingWidth_le_widthAll (e :: more)
        rw [hwidth, hend]
        exact Nat.add_le_add_left hle endless
    · obtain ⟨e, more, rfl⟩ := List.exists_cons_of_ne_nil (List.ne_nil_of_mem h)
      have hvanishing : vanishingWidth (d :: e :: more) = vanishingWidth (e :: more) := by
        rw [vanishingWidth]
        exact nofun
      rw [hwidth, hvanishing]
      exact Nat.le_trans (ih h) (Nat.le_add_left _ _)

/-- A file in which a line ends **ends one at every gap** outside its boxes. -/
theorem render_box {docs : List Doc} (h : Doc.lineEnd ∈ docs) :
    render (.box {} docs) = (writeAll docs (.consistent false) 0 0 ⟨0, lineWidth⟩).1 := by
  have hwidth : (Doc.box {} docs).width = widthAll docs - vanishingWidth docs := by
    rw [Doc.width]
    rfl
  have hframe : Style.frame {} docs 0 ⟨0, lineWidth⟩ = .consistent false := by
    have hendless := endless_add_le_widthAll h
    have hline : lineWidth < (endless : Int) := by decide
    have hbroken : ¬ ((Doc.box {} docs).width : Int) + (0 : Nat) ≤ lineWidth := by
      rw [hwidth]
      omega
    rw [Style.frame, if_neg hbroken]
    rfl
  rw [render, Doc.write, hframe]
  rfl

end Scaffold.Layout

namespace Scaffold.Emit

open Handler (Descriptor)
open Source

variable {config : Config} {p : TraitPath} {handlers : List Descriptor}

/-- The tree of generated source, laid out, has its **attribute on the first line**. -/
theorem render_tree (p : TraitPath) (handlers : List Descriptor) :
    ∃ rest, Layout.render (tree p handlers).doc =
      "#![allow(non_camel_case_types)]".toList ++ '\n' :: rest := by
  have hend : Layout.Doc.lineEnd ∈ (importItem p).docs := by
    rw [importItem, Item.docs, ItemKind.docs]
    simp
  have hdoc : (tree p handlers).doc =
      .box {} (innerDocs [allowance] ++ itemDocs (tree p handlers).items) := rfl
  have hitems : itemDocs (tree p handlers).items =
      (importItem p).docs ++ itemDocs (tree p handlers).items.tail := rfl
  have hlineEnd : Layout.Doc.lineEnd ∈
      innerDocs [allowance] ++ itemDocs (tree p handlers).items := by
    rw [hitems]
    exact List.mem_append_right _ (List.mem_append_left _ hend)
  rw [hdoc, Layout.render_box hlineEnd]
  exact ⟨_, rfl⟩

/-- The **header of emitted source** is the mark, and nothing of the tree belongs to it. -/
theorem splitHeader_emitted (p : TraitPath) (handlers : List Descriptor) :
    splitHeader (Template.mark.toList ++ '\n' :: '\n' :: Layout.render (tree p handlers).doc) =
      ([Template.mark.toList], Layout.render (tree p handlers).doc) := by
  obtain ⟨rest, hrest⟩ := render_tree p handlers
  rw [hrest]
  exact splitHeader_append (by decide) (by decide) (by decide)
    (splitHeader_eq_nil (by decide) (by decide) (by decide))

/-- The tree of generated source, laid out, is **read as the tree**. -/
theorem read?_render (h : ∀ d ∈ handlers, isIdentifier (typeOf d) = true) :
    File.read? (Layout.render (tree p handlers).doc) = some (tree p handlers) := by
  obtain ⟨ts, htokens, hlexes⟩ := lexes_render h
  obtain ⟨rest, hrest⟩ := render_tree p handlers
  rw [hrest] at hlexes ⊢
  exact File.read?_eq_some rfl (startsShebang_attribute _) hlexes (htokens.ofTokens?_eq_some h)

/-- **Formatting emitted source changes nothing.** For a trait that is named by a path and types
that are named by identifiers, source is emitted whatever the paths and verbs of the handlers are;
its header is the mark of a generated file, and it is formatted to itself. -/
theorem format_emit (hpath : Text.trimmed config.handlerTrait = String.ofList p.spelling)
    (htypes : ∀ d ∈ handlers, isIdentifier (typeOf d) = true) :
    ∃ source, emit config handlers = .ok source ∧
      (splitHeader source.toList).1 = [Template.mark.toList] ∧ format source = .ok source := by
  have hheader := splitHeader_emitted p handlers
  have hemit : emit config handlers = .ok (String.ofList (Template.mark.toList ++ '\n' :: '\n' ::
      Layout.render (tree p handlers).doc)) := by
    have htemplate := format_template hpath htypes
    rw [Template.Trait.ofConfig, hpath, traitName_eq hpath] at htemplate
    rw [emit, render, trait_eq_ok hpath, Except.map, Except.bind, htemplate]
  rw [← String.toList_ofList (l := Template.mark.toList ++ _)] at hheader
  refine ⟨_, hemit, congrArg Prod.fst hheader, ?_⟩
  exact format_eq_ok hheader (read?_render htypes)

/-- A handler whose path has to be escaped, and a type whose name breaks its line. -/
theorem format_emit_longName :
    Text.trimmed ({} : Config).handlerTrait = String.ofList usualPath.spelling ∧
      ∃ source, emit {} [⟨"/a\"\\\n\u00e9", "GET", "projectsDatasetsTablesGetIamPolicy"⟩] =
          .ok source ∧
        (splitHeader source.toList).1 = [Template.mark.toList] ∧ format source = .ok source := by
  have hpath : Text.trimmed ({} : Config).handlerTrait = String.ofList usualPath.spelling := by
    decide
  refine ⟨hpath, format_emit hpath ?_⟩
  intro d hd
  obtain rfl := List.mem_singleton.1 hd
  decide

end Scaffold.Emit
