import Mathlib.Data.List.TakeWhile
import Scaffold.Proofs.Except
import Scaffold.Proofs.Text.Blank
import Scaffold.Source.Format

/-!
# The comments that formatting keeps

The comments in front of a source are kept line by line, each trimmed, in their order. They are
told from doc comments before the source is cut into tokens, by their first three characters. Four
slashes begin an ordinary comment for the lexer, but not for the header, which ends in front of
them: from there on the comments are part of the source that is read, where ordinary comments
vanish. All of this is the same for every parser and printer.

## Main definitions

* `leadingComments` - the comments in front of a source, as the lexer tells them from doc comments.
* `hasFourSlashes` - whether a comment is one of those that are not kept.

## Main results

* `splitHeader_fst` - the header is the leading comments up to the first with four slashes.
* `splitHeader_joinHeader` - a header is split off as it was put on.
* `Language.format_keeps_comments` - what formatting keeps, and keeps again.
-/

namespace Scaffold.Source

/-- Whether a trimmed line is an **ordinary comment**, as the lexer sees it. -/
def isComment (line : List Char) : Bool :=
  match line with
  | '/' :: '/' :: rest => !isDocLine rest
  | _ => false

/-- Whether a line begins with four slashes. -/
def hasFourSlashes (line : List Char) : Bool :=
  ['/', '/', '/', '/'].isPrefixOf line

/-- The **comments in front of a source**: those of its first lines that are blank or ordinary
comments, trimmed and without the blank ones. -/
def leadingComments (source : List Char) : List (List Char) :=
  (((Text.split '\n' source).map Text.trim).takeWhile fun line =>
    line.isEmpty || isComment line).filter (!·.isEmpty)

/-- A line that the header may have: a trimmed comment. -/
structure IsHeaderComment (line : List Char) : Prop where
  isHeader : isHeaderLine line = true
  trimmed : Text.trim line = line
  whole : '\n' ∉ line

/-! ### Lines -/

/-- The header has the ordinary comments without those that begin with four slashes. -/
theorem isHeaderLine_eq (line : List Char) :
    isHeaderLine line = (isComment line && !hasFourSlashes line) := by
  unfold isHeaderLine isComment
  split
  · next rest =>
    cases rest with
    | nil => rfl
    | cons d rest =>
      by_cases hd : d = '/'
      · subst hd
        rw [Bool.and_comm]
        rfl
      · simp [isDocLine, hd]
  · rfl
  · next rest hslash hmark =>
    -- Neither a third slash nor the mark of a documentation of the file follows.
    have hdoc : isDocLine rest = false := by
      unfold isDocLine
      split
      · next more => exact (hmark more rfl).elim
      · rfl
      · next more _ => exact (hslash more rfl).elim
      · rfl
    have hfour : hasFourSlashes ('/' :: '/' :: rest) = false := by
      rw [← Bool.not_eq_true]
      intro h
      obtain ⟨more, hmore⟩ := List.isPrefixOf_iff_prefix.1 h
      cases hmore
      exact hslash _ rfl
    rw [hfour]
    exact (congrArg (fun doc => !doc && !false) hdoc).symm
  · next hcomment =>
    split
    · exact (hcomment _ rfl).elim
    · rfl

/-- The header of lines is their leading comments **up to the first with four slashes**. -/
theorem splitHeaderLines_fst (lines : List (List Char)) :
    (splitHeaderLines lines).1 =
      (((lines.map Text.trim).takeWhile fun line => line.isEmpty || isComment line).filter
        (!·.isEmpty)).takeWhile (!hasFourSlashes ·) := by
  induction lines with
  | nil => rfl
  | cons line lines ih =>
    rw [splitHeaderLines, List.map_cons]
    dsimp only
    generalize Text.trim line = trimmed
    rw [isHeaderLine_eq]
    cases hcomment : isComment trimmed with
    | false =>
      cases hblank : trimmed.isEmpty with
      | false => simp [hcomment, hblank]
      | true => simp [hblank, ih]
    | true =>
      have hblank : trimmed.isEmpty = false := by
        rw [← Bool.not_eq_true, List.isEmpty_iff]
        rintro rfl
        cases hcomment
      cases hfour : hasFourSlashes trimmed with
      | false => simp [hcomment, hblank, hfour, ih]
      -- The header ends here, and with it what is taken of the comments.
      | true => simp [hcomment, hblank, hfour]

/-- The header of a source is its leading comments **up to the first with four slashes**. -/
theorem splitHeader_fst (source : List Char) :
    (splitHeader source).1 = (leadingComments source).takeWhile (!hasFourSlashes ·) :=
  splitHeaderLines_fst (Text.split '\n' source)

/-- The lines of a header are trimmed comments. -/
theorem isHeaderComment_of_mem {source line : List Char} (h : line ∈ (splitHeader source).1) :
    IsHeaderComment line := by
  have hlines {lines : List (List Char)} (h : line ∈ (splitHeaderLines lines).1) :
      isHeaderLine line = true ∧ ∃ whole ∈ lines, line = Text.trim whole := by
    induction lines with
    | nil => cases h
    | cons whole lines ih =>
      rw [splitHeaderLines] at h
      dsimp only at h
      split at h
      · next hheader =>
        rcases List.mem_cons.1 h with rfl | h
        · exact ⟨hheader, whole, List.mem_cons_self, rfl⟩
        · obtain ⟨hline, other, hmem, heq⟩ := ih h
          exact ⟨hline, other, List.mem_cons_of_mem _ hmem, heq⟩
      · split at h
        · obtain ⟨hline, other, hmem, heq⟩ := ih h
          exact ⟨hline, other, List.mem_cons_of_mem _ hmem, heq⟩
        · cases h
  obtain ⟨hheader, whole, hmem, rfl⟩ := hlines h
  obtain ⟨front, back, hwhole, -, -⟩ := Text.exists_trim whole
  refine ⟨hheader, Text.trim_trim whole, fun hend => Text.notMem_of_mem_split hmem ?_⟩
  rw [hwhole]
  exact List.mem_append_left _ (List.mem_append_right _ hend)

/-- Lines of a header in front of others are split off. -/
theorem splitHeaderLines_append {header : List (List Char)}
    (h : ∀ line ∈ header, IsHeaderComment line) (lines : List (List Char)) :
    splitHeaderLines (header ++ lines) =
      (header ++ (splitHeaderLines lines).1, (splitHeaderLines lines).2) := by
  induction header with
  | nil => rfl
  | cons line header ih =>
    obtain ⟨hline, hheader⟩ := List.forall_mem_cons.1 h
    rw [List.cons_append, splitHeaderLines, hline.trimmed]
    dsimp only
    rw [if_pos hline.isHeader, ih hheader]
    rfl

/-- The lines of a header that is put on stand in front of an empty one. -/
theorem split_joinHeader {first : List Char} {header : List (List Char)}
    (h : ∀ line ∈ first :: header, IsHeaderComment line) (body : List Char) :
    Text.split '\n' (joinHeader (first :: header) body) =
      first :: header ++ [] :: Text.split '\n' body := by
  have hempty : Text.split '\n' ('\n' :: body) = [] :: Text.split '\n' body :=
    @Text.split_append_cons _ [] _ List.not_mem_nil
  change Text.split '\n' (List.intercalate ['\n'] (first :: header) ++ '\n' :: '\n' :: body) = _
  induction header generalizing first with
  | nil =>
    have hfirst := (h first List.mem_cons_self).whole
    rw [List.intercalate_singleton, Text.split_append_cons hfirst, hempty]
    rfl
  | cons next header ih =>
    obtain ⟨hfirst, hheader⟩ := List.forall_mem_cons.1 h
    rw [List.intercalate_cons_cons, List.append_assoc, List.append_assoc, List.singleton_append,
      Text.split_append_cons hfirst.whole, ih hheader]
    rfl

/-- A header is **split off as it was put on**, in front of the header that the body has. -/
theorem splitHeader_joinHeader {header : List (List Char)}
    (h : ∀ line ∈ header, IsHeaderComment line) (body : List Char) :
    splitHeader (joinHeader header body) =
      (header ++ (splitHeader body).1, (splitHeader body).2) := by
  cases header with
  | nil => rfl
  | cons first header =>
    have hempty : splitHeaderLines ([] :: Text.split '\n' body) =
        splitHeaderLines (Text.split '\n' body) := rfl
    rw [splitHeader, split_joinHeader h, splitHeaderLines_append h, hempty]
    rfl

/-! ### Formatting -/

/-- What a source is formatted to: its header, and the layout of what the rest is read as. -/
theorem Language.format_eq_ok_iff {L : Language} {source out : String} :
    L.format source = .ok out ↔ ∃ f, L.read? (splitHeader source.toList).2 = some f ∧
      out.toList = joinHeader (splitHeader source.toList).1 (L.layOut f) := by
  unfold Language.format
  dsimp only
  cases L.read? (splitHeader source.toList).2 with
  | none => exact ⟨nofun, fun ⟨_, h, _⟩ => nomatch h⟩
  | some f =>
    dsimp only
    constructor
    · intro h
      obtain rfl := Except.ok.inj h
      exact ⟨f, rfl, String.toList_ofList⟩
    · rintro ⟨_, h, hout⟩
      obtain rfl := Option.some.inj h
      rw [← hout, String.ofList_toList]

/-- What source in the language of generated source is formatted to. -/
theorem format_eq_ok_iff {source out : String} :
    format source = .ok out ↔ ∃ f, File.read? (splitHeader source.toList).2 = some f ∧
      out.toList = joinHeader (splitHeader source.toList).1 (Layout.render f.doc) :=
  rust.format_eq_ok_iff

/-- The **header of what was formatted** is that of the source, and behind it that of the layout. -/
theorem Language.splitHeader_format {L : Language} {source out : String} {f : L.Tree}
    (hout : out.toList = joinHeader (splitHeader source.toList).1 (L.layOut f)) :
    splitHeader out.toList = ((splitHeader source.toList).1 ++ (splitHeader (L.layOut f)).1,
      (splitHeader (L.layOut f)).2) := by
  rw [hout]
  exact splitHeader_joinHeader (fun _ => isHeaderComment_of_mem) (L.layOut f)

/-- What formatting **keeps of the leading comments**, whatever the parser and the printer: they
stand in front of the layout of what the rest is read as, each as often as it stood there and in the
same order, up to the first that begins with four slashes, and all of them exactly if there is none
that does. Formatting what has been formatted keeps them again, in front of all others. If the
layout can be read again and begins with neither a comment nor an empty line, then formatting again
succeeds, and the same comments stand in front of the layout of what is read then. -/
theorem Language.format_keeps_comments {L : Language} {source out : String}
    (h : L.format source = .ok out) :
    ∃ (kept : List (List Char)) (f : L.Tree),
      L.read? (splitHeader source.toList).2 = some f ∧
      out.toList = joinHeader kept (L.layOut f) ∧
      kept = (leadingComments source.toList).takeWhile (!hasFourSlashes ·) ∧
      (kept = leadingComments source.toList ↔
        ∀ line ∈ leadingComments source.toList, hasFourSlashes line = false) ∧
      (∀ again, L.format out = .ok again → kept <+: (splitHeader again.toList).1) ∧
      ∀ g, L.read? (L.layOut f) = some g → splitHeader (L.layOut f) = ([], L.layOut f) →
        L.format out = .ok (String.ofList (joinHeader kept (L.layOut g))) := by
  obtain ⟨f, hread, hout⟩ := format_eq_ok_iff.1 h
  have hheader := splitHeader_format hout
  refine ⟨(splitHeader source.toList).1, f, hread, hout, splitHeader_fst _, ?_, ?_, ?_⟩
  · rw [splitHeader_fst, List.takeWhile_eq_self_iff]
    simp only [Bool.not_eq_true']
  · intro again hagain
    obtain ⟨g, -, hg⟩ := format_eq_ok_iff.1 hagain
    rw [splitHeader_format hg, hheader, List.append_assoc]
    exact List.prefix_append _ _
  · intro g hg hbare
    rw [hbare, List.append_nil] at hheader
    refine format_eq_ok_iff.2 ⟨g, ?_, ?_⟩
    · rw [hheader]
      exact hg
    · rw [hheader, String.toList_ofList]

/-- Comments between blank lines, indented or in front of a line end of two characters, are kept
twice. -/
theorem format_keeps_indented :
    rust.format "// a\n\n  //b \r\nstruct A;" = .ok "// a\n//b\n\nstruct A;\n" ∧
    ∃ g, rust.read? "struct A;\n".toList = some g ∧ rust.format "// a\n//b\n\nstruct A;\n" =
      .ok (String.ofList (joinHeader ["// a".toList, "//b".toList] (rust.layOut g))) := by
  have hformat : rust.format "// a\n\n  //b \r\nstruct A;" = .ok "// a\n//b\n\nstruct A;\n" :=
    toOption_eq_some_iff.1 (by decide +kernel)
  have hcomments : (leadingComments "// a\n\n  //b \r\nstruct A;".toList).takeWhile
      (!hasFourSlashes ·) = ["// a".toList, "//b".toList] := by decide
  obtain ⟨g, hg⟩ : ∃ g, rust.read? "struct A;\n".toList = some g :=
    Option.isSome_iff_exists.1 (by decide +kernel)
  obtain ⟨kept, f, -, hout, hkept, -, -, hagain⟩ := Language.format_keeps_comments hformat
  rw [hcomments] at hkept
  subst hkept
  have hlayout : "struct A;\n".toList = rust.layOut f :=
    @List.append_cancel_left _ "// a\n//b\n\n".toList _ _ hout
  rw [← hlayout] at hagain
  exact ⟨hformat, g, hg, hagain g hg (by decide +kernel)⟩

/-- A layout need not be one that can be read: an attribute may hold what is laid out as a comment,
and one that documents a file cannot stand behind a declaration. -/
example : format "struct A;\n#[comment = \"!\"]\nstruct B;" = .ok "struct A;\n//!\nstruct B;\n" ∧
    format "struct A;\n//!\nstruct B;\n" = .error .format :=
  ⟨toOption_eq_some_iff.1 (by decide +kernel), by decide +kernel⟩

/-- A comment that begins with four slashes **is lost**, though the lexer sees an ordinary one. -/
theorem format_drops_fourSlashes :
    format "//// a\nstruct A;\n" = .ok "struct A;\n" ∧
      leadingComments "//// a\nstruct A;\n".toList = ["//// a".toList] ∧
      ¬ ∃ body, "struct A;\n".toList =
        joinHeader (leadingComments "//// a\nstruct A;\n".toList) body := by
  have hcomments : leadingComments "//// a\nstruct A;\n".toList = ["//// a".toList] := by decide
  refine ⟨toOption_eq_some_iff.1 (by decide +kernel), hcomments, ?_⟩
  rintro ⟨body, hbody⟩
  rw [hcomments] at hbody
  cases congrArg List.head? hbody

end Scaffold.Source
