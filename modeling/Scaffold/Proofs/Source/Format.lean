import Scaffold.Proofs.Source.Header
import Scaffold.Proofs.Source.Lexing

/-!
# Formatting source with a header

A header of one comment line is split off a source and put in front of the formatted source
again. As a comment, it is no part of what the formatted source is read as.

## Main results

* `splitHeader_append` - a comment line and an empty line are split off.
* `format_eq_ok` - what a source with such a header is formatted to.
* `Lexes.comment` - a comment line is cut off without a token.
* `File.read?_eq_some` - what a source is read as.
-/

namespace Scaffold.Source

/-! ### Splitting off a header -/

/-- A source whose first line is neither blank nor a comment has no header. -/
theorem splitHeader_eq_nil {first rest : List Char} (hfirst : '\n' ∉ first)
    (hheader : isHeaderLine (Text.trim first) = false)
    (hblank : (Text.trim first).isEmpty = false) :
    splitHeader (first ++ '\n' :: rest) = ([], first ++ '\n' :: rest) := by
  have hsplit := Text.intercalate_split '\n' (first ++ '\n' :: rest)
  rw [Text.split_append_cons hfirst] at hsplit
  rw [splitHeader, Text.split_append_cons hfirst, splitHeaderLines, hheader, hblank]
  exact congrArg (Prod.mk []) hsplit

/-- A comment line and an empty line are a header that is put on. -/
theorem joinHeader_singleton (line body : List Char) :
    joinHeader [line] body = line ++ '\n' :: '\n' :: body := by
  rw [joinHeader, List.intercalate_singleton]
  rfl

/-- A **comment line and an empty line** in front of a source without header are split off. -/
theorem splitHeader_append {line cs : List Char} (hline : '\n' ∉ line)
    (htrim : Text.trim line = line) (hheader : isHeaderLine line = true)
    (hcs : splitHeader cs = ([], cs)) :
    splitHeader (line ++ '\n' :: '\n' :: cs) = ([line], cs) := by
  have hcomment : ∀ l ∈ [line], IsHeaderComment l :=
    List.forall_mem_singleton.2 ⟨hheader, htrim, hline⟩
  rw [← joinHeader_singleton, splitHeader_joinHeader hcomment, hcs]
  rfl

/-- What a source with a header of one line is **formatted** to. -/
theorem format_eq_ok {source : String} {line cs : List Char} {f : File}
    (hsource : splitHeader source.toList = ([line], cs)) (hf : File.read? cs = some f) :
    format source = .ok (String.ofList (line ++ '\n' :: '\n' :: Layout.render f.doc)) := by
  refine format_eq_ok_iff.2 ⟨f, ?_, ?_⟩
  · rw [hsource]
    exact hf
  · rw [hsource, String.toList_ofList]
    exact (joinHeader_singleton line _).symm

/-! ### Reading a source -/

/-- A source that begins with a token is not shortened. -/
theorem skip_eq_self {cs : List Char} (h : dropSeparator? cs = none) : skip cs = cs := by
  rw [skip]
  cases cs with
  | nil => rfl
  | cons c rest => rw [List.length_cons, skipWithin, h]

/-- A source that begins with an attribute does not name an interpreter. -/
theorem startsShebang_attribute (rest : List Char) :
    startsShebang ('#' :: '!' :: '[' :: rest) = false := by
  have hdrop : dropSeparator? ('[' :: rest) = none := rfl
  rw [startsShebang, skip_eq_self hdrop]
  rfl

/-- The **tree of a source** that begins with neither the mark of the order of bytes nor the name
of an interpreter. -/
theorem File.read?_eq_some {cs : List Char} {ts : List Token} {f : File}
    (hmark : withoutMark cs = cs) (hshebang : startsShebang cs = false) (hlexes : Lexes cs ts)
    (hf : File.ofTokens? none ts = some f) : File.read? cs = some f := by
  have hsplit : splitShebang cs = (none, cs) := by
    rw [splitShebang, hshebang]
    rfl
  rw [File.read?, hmark, hsplit]
  dsimp only
  rw [hmark, hlexes.tokens?_eq_some, Option.bind_some, hf]

/-- An ordinary comment is cut off without a token, as is the end of its line. -/
theorem Lexes.comment {line cs : List Char} {ts : List Token} (hline : '\n' ∉ line)
    (hdoc : ∀ rest, isDocLine (line ++ rest) = false) (h : Lexes ('\n' :: cs) ts) :
    Lexes ('/' :: '/' :: line ++ '\n' :: cs) ts := by
  have hline' : ∀ c ∈ line, decide (c ≠ '\n') = true := by
    intro c hc
    rw [decide_eq_true_eq]
    rintro rfl
    exact hline hc
  have hdrop : dropSeparator? ('/' :: '/' :: line ++ '\n' :: cs) = some ('\n' :: cs) := by
    change (if isDocLine (line ++ '\n' :: cs) = true then none
      else some ((line ++ '\n' :: cs).dropWhile fun c => decide (c ≠ '\n'))) = _
    rw [hdoc, List.dropWhile_append_of_pos hline']
    rfl
  exact .drop hdrop h

end Scaffold.Source
