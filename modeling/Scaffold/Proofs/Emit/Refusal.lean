import Scaffold.Proofs.Emit.Frame
import Scaffold.Proofs.Emit.ReadBack
import Scaffold.Proofs.Source.Anchor.Items
import Scaffold.Proofs.Source.Anchor.Name

/-!
# Names that are no identifiers are refused

The template is read as source only if the names of the types are identifiers, provided that they
are solid text. The tokens of such a name stand both as the name of a record and in angle brackets,
and are read there, whatever is read around them.

## Main results

* `isIdentifier_of_read?` - the names of the types in a template that is read.
* `isIdentifier_of_format` - the names of the types in a template that is formatted.
-/

namespace Scaffold.Emit

open Handler (Descriptor)
open Source Source.Piece Source.Reader

/-- Solid text is no raw name. -/
theorem ofSpelling_of_solid {u : List Char} (h : u.all isSolid = true) :
    Name.ofSpelling u = ⟨false, u⟩ := by
  unfold Name.ofSpelling
  split
  · next text =>
    simp only [List.all_cons, Bool.and_eq_true] at h
    exact absurd rfl (isSolid_inv h.2.1).2.2.1
  · rfl

/-- The name of a type stands **in angle brackets** behind colons. -/
theorem generic_of_anchored {rest us : List Token} {joint : Bool}
    (h : Anchored true (word "use" :: rest) []) (hwithin : assertionFrame.tokens joint us <:+: rest) :
    ∃ post, (genericParameters (.mark '<' joint :: (us ++ .mark '>' false :: post))).isSome ∨
      ∃ type, ReadsTypes type ∧
        (arguments type (.mark '<' joint :: (us ++ .mark '>' false :: post))).isSome := by
  obtain ⟨pre, post, rfl⟩ := hwithin
  have htokens : word "use" :: (pre ++ assertionFrame.tokens joint us ++ post) =
      (word "use" :: pre ++ [word "assert_handler", .mark ':' true, .mark ':' true]) ++
        .mark '<' joint :: (us ++ .mark '>' false ::
          (.opening .paren :: .closing .paren :: .mark ';' false :: post)) := by
    rw [Frame.tokens]
    simp [assertionFrame, blanks, Lexeme.tokens, wordLexeme, markLexeme, word]
  rw [htokens] at h
  have hsite := h.site
  rw [List.append_nil] at hsite
  have hcolon : endsInColon true (word "use" :: pre ++ [word "assert_handler", .mark ':' true,
      .mark ':' true]) = true := by
    rw [endsInColon, List.foldl_append]
    rfl
  exact ⟨_, hsite.generic hcolon ((startsMarks_iff rfl).2 ⟨joint, _, rfl⟩)⟩

/-- The name of a type stands **behind the word that begins a record**. -/
theorem record_of_anchored {rest us : List Token} {joint : Bool}
    (h : Anchored true (word "use" :: rest) [])
    (hwithin : declarationFrame.tokens joint us <:+: rest) :
    ∃ post, (recordItem (word "struct" :: (us ++ .opening .brace :: post))).isSome := by
  obtain ⟨pre, post, rfl⟩ := hwithin
  have htokens : word "use" :: (pre ++ declarationFrame.tokens joint us ++ post) =
      (word "use" :: pre ++ [word "pub"]) ++
        word "struct" :: (us ++ .opening .brace :: .closing .brace :: post) := by
    rw [Frame.tokens]
    simp [declarationFrame, blanks, Lexeme.tokens, wordLexeme, blank, word]
  rw [htokens] at h
  have hsite := h.site
  rw [List.append_nil] at hsite
  exact ⟨_, hsite.record (startsWord_ofString _ _)⟩

/-- Tokens that are anchored at both places of a name **are an identifier**. -/
theorem isIdentifier_of_anchored {d : Descriptor} {rest us : List Token} {joint : Bool}
    (hd : IsSolidText d.typeName.toList) (hcuts : Cuts d.typeName.toList us)
    (h : Anchored true (word "use" :: rest) []) (hgeneric : assertionFrame.tokens joint us <:+: rest)
    (hrecord : declarationFrame.tokens joint us <:+: rest) : isIdentifier (typeOf d) = true := by
  obtain ⟨_, hgeneric⟩ := generic_of_anchored h hgeneric
  obtain ⟨_, hrecord⟩ := record_of_anchored h hrecord
  obtain ⟨n, rfl, hn⟩ := eq_name_of_reads hrecord hgeneric (hcuts.getLast?_ne_mark hd)
  obtain ⟨rfl, hspelled⟩ := hcuts.name_inv
  rw [isIdentifier, typeOf, ofSpelling_of_solid hd.solid, hspelled, hn]
  rfl

/-- The declarations behind the attribute, where a file is read. -/
theorem items_of_ofTokens? {rest : List Token} {f : File}
    (h : File.ofTokens? none (allowanceTokens ++ word "use" :: rest) = some f) :
    ∃ is, items (word "use" :: rest) = some (is, []) := by
  have hattributes : innerAttributes (allowanceTokens ++ word "use" :: rest) =
      some ([allowance], word "use" :: rest) := rfl
  unfold File.ofTokens? at h
  split at h
  · next hfile =>
    obtain ⟨_, _, hinner, hrest⟩ := run_bind_inv hfile
    cases hattributes.symm.trans hinner
    obtain ⟨is, _, hitems, heq⟩ := run_bind_inv hrest
    cases heq
    exact ⟨is, hitems⟩
  · cases h

/-- The template is read only if **the names of the types are identifiers**. -/
theorem isIdentifier_of_read? {p : TraitPath} {handlers : List Descriptor} {f : File}
    (hsolid : ∀ d ∈ handlers, IsSolidText d.typeName.toList)
    (h : File.read? ((templatePieces p handlers).flatMap Piece.spelling) = some f) :
    ∀ d ∈ handlers, isIdentifier (typeOf d) = true := by
  obtain ⟨hmark, hshebang⟩ := withoutMark_template p handlers
  have hsplit : splitShebang ((templatePieces p handlers).flatMap Piece.spelling) =
      (none, (templatePieces p handlers).flatMap Piece.spelling) := by
    rw [splitShebang, hshebang]
    rfl
  rw [File.read?, hmark, hsplit] at h
  dsimp only at h
  rw [hmark] at h
  obtain ⟨ts, hts, hfile⟩ := Option.bind_eq_some_iff.1 h
  obtain ⟨rest, rfl, hhash, hall⟩ := lexes_template_inv hsolid (tokens?_eq_some_iff.1 hts)
  obtain ⟨is, hitems⟩ := items_of_ofTokens? hfile
  have hanchored : Anchored true (word "use" :: rest) [] :=
    anchored_items hitems (@hash_notMem (word "use" :: rest) hhash)
  intro d hd
  obtain ⟨joint, us, hcuts, hgeneric, hrecord⟩ := hall d hd
  exact isIdentifier_of_anchored (hsolid d hd) hcuts hanchored hgeneric hrecord

/-- So is it formatted only then. -/
theorem isIdentifier_of_format {config : Config} {p : TraitPath} {handlers : List Descriptor}
    {source : String} (hpath : Text.trimmed config.handlerTrait = String.ofList p.spelling)
    (hsolid : ∀ d ∈ handlers, IsSolidText d.typeName.toList)
    (h : format (Template.render (.ofConfig config) handlers) = .ok source) :
    ∀ d ∈ handlers, isIdentifier (typeOf d) = true := by
  obtain ⟨f, hread, -⟩ := format_eq_ok_iff.1 h
  rw [splitHeader_render hpath] at hread
  exact isIdentifier_of_read? hsolid hread

end Scaffold.Emit
