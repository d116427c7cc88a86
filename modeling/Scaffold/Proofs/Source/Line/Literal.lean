import Scaffold.Proofs.Source.Lexeme

/-!
# Literals of a line

A literal that is complete in front of the end of a line is the same literal with further lines
behind it. A quotation is read over ends of lines to its own end, and a number stops where its line
ends.

## Main results

* `Literal.quoted?_append_line` - a quoted literal does not depend on further lines.
* `Literal.read?_append_line` - nor does any other literal.
-/

namespace Scaffold.Source

open Text (startsIdentifier continuesIdentifier)

variable {u r w : List Char}

/-- Numbers and names end at the end of a line. -/
theorem stops_line (w : List Char) : Stops ('\n' :: w) :=
  fun _ hc => .inr (.inl (Option.some.inj hc).symm)

/-- Further lines give a source no beginning within a line that it has not by itself. -/
theorem isPrefixOf_append_line {p : List Char} (hp : '\n' ∉ p) :
    p.isPrefixOf (u ++ '\n' :: w) = p.isPrefixOf u := by
  induction p generalizing u with
  | nil => rfl
  | cons a p ih =>
    obtain ⟨ha, hp⟩ := not_or.1 (mt List.mem_cons.2 hp)
    cases u with
    | nil => simp [List.isPrefixOf, Ne.symm ha]
    | cons c u => rw [List.cons_append, List.isPrefixOf, List.isPrefixOf, ih hp]

/-! ### Quotations -/

/-- A quotation that is closed is read the same, whatever stands behind it. -/
theorem readFrom_append {rules : Text.Quoted.Rules} {mode : Text.Quoted.Mode}
    {x : List Char × List Char} (h : Text.Quoted.readFrom rules mode u = some x) (v : List Char) :
    Text.Quoted.readFrom rules mode (u ++ v) = some (x.1, x.2 ++ v) := by
  fun_induction Text.Quoted.readFrom rules mode u generalizing x with
  | case1 => cases h
  | case2 => cases h
  | case3 mode c rest hstep =>
    cases h
    rw [List.cons_append, Text.Quoted.readFrom, hstep]
  | case4 mode c rest next hstep ih =>
    rw [List.cons_append, Text.Quoted.readFrom_go hstep, ih h]
  | case5 mode c rest d hstep ih =>
    obtain ⟨y, hy, rfl⟩ := Option.map_eq_some_iff.1 h
    rw [List.cons_append, Text.Quoted.readFrom_emit hstep, ih hy, Option.map_some]

/-- So is an escape. -/
theorem escapeFrom_append {rules : Text.Quoted.Rules} {mode : Text.Quoted.Mode}
    {x : Char × List Char} (h : Text.Quoted.escapeFrom rules mode u = some x) (v : List Char) :
    Text.Quoted.escapeFrom rules mode (u ++ v) = some (x.1, x.2 ++ v) := by
  fun_induction Text.Quoted.escapeFrom rules mode u generalizing x with
  | case1 => cases h
  | case2 => cases h
  | case3 => cases h
  | case4 => cases h
  | case5 => cases h
  | case6 mode c rest next hgap hend hstep ih =>
    rw [List.cons_append, Text.Quoted.escapeFrom, hstep]
    cases next with
    | gap => exact (hgap rfl).elim
    | gapLineEnd => exact (hend rfl).elim
    | _ => exact ih h
  | case7 mode c rest d hstep =>
    cases h
    rw [List.cons_append, Text.Quoted.escapeFrom, hstep]

namespace Literal

/-- So is a raw quotation. Its closing hashes stand on one line. -/
theorem rawFrom_append_line {rules : Text.Quoted.Rules} {hashes : List Char}
    {x : List Char × List Char} (hhashes : '\n' ∉ hashes) (h : rawFrom rules hashes u = some x) :
    rawFrom rules hashes (u ++ '\n' :: w) = some (x.1, x.2 ++ '\n' :: w) := by
  induction u generalizing x with
  | nil => cases h
  | cons c rest ih =>
    rw [rawFrom] at h
    rw [List.cons_append, rawFrom, isPrefixOf_append_line hhashes]
    split at h
    · next hclose =>
      cases h
      have hlength := (List.isPrefixOf_iff_prefix.1 hclose.2).length_le
      rw [if_pos hclose, List.drop_append_of_le_length hlength]
    · next hclose =>
      rw [if_neg hclose]
      split at h
      · cases h
      · next hadmits =>
        obtain ⟨y, hy, rfl⟩ := Option.map_eq_some_iff.1 h
        obtain ⟨d, more, rfl⟩ : ∃ d more, rest = d :: more :=
          List.exists_cons_of_ne_nil fun hnil => by rw [hnil] at hy; cases hy
        rw [List.cons_append, List.head?_cons] at *
        rw [if_neg hadmits, ih hy, Option.map_some]

/-- A raw quotation with its hashes is read the same with further lines behind it. -/
theorem raw?_append_line {rules : Text.Quoted.Rules} {x : List Char × List Char}
    (h : raw? rules u = some x) : raw? rules (u ++ '\n' :: w) = some (x.1, x.2 ++ '\n' :: w) := by
  have hstop : ∀ c ∈ ('\n' :: w).head?, decide (c = '#') = false :=
    (stops_line w).head rfl rfl rfl
  have hhashes : '\n' ∉ u.takeWhile fun c => decide (c = '#') := by
    intro hmem
    have hhash := List.all_eq_true.1 List.all_takeWhile _ hmem
    cases hhash
  unfold raw? at h ⊢
  dsimp only at h ⊢
  rw [takeWhile_append_stops _ u hstop, dropWhile_append_stops _ u hstop]
  split at h
  · next rest hrest =>
    rw [hrest]
    split at h
    · next hmax =>
      exact (if_pos hmax).trans (rawFrom_append_line hhashes h)
    · cases h
  · cases h

/-- An apostrophe does not come about by the end of a line. -/
theorem afterApostrophe?_append_line (u : List Char) :
    afterApostrophe? (u ++ '\n' :: w) = (afterApostrophe? u).map (· ++ '\n' :: w) := by
  rcases u with _ | ⟨c, rest⟩
  · rfl
  · by_cases hc : c = '\''
    · subst hc
      rfl
    · simp [afterApostrophe?, hc]

/-- A quoted character is read the same with further lines behind it. -/
theorem single?_append_line {rules : Text.Quoted.Rules} (h : single? rules u = some r) :
    single? rules (u ++ '\n' :: w) = some (r ++ '\n' :: w) := by
  rw [single?_eq] at h ⊢
  obtain ⟨rest, hrest, hr⟩ := Option.bind_eq_some_iff.1 h
  have hcharacter : afterCharacter? rules (u ++ '\n' :: w) = some (rest ++ '\n' :: w) := by
    unfold afterCharacter? at hrest
    split at hrest
    · cases hrest
    · obtain ⟨x, hx, rfl⟩ := Option.map_eq_some_iff.1 hrest
      exact congrArg (Option.map (·.2)) (escapeFrom_append hx _)
    · next c more hc =>
      split at hrest
      · next hadmits =>
        cases hrest
        rw [List.cons_append, afterCharacter?, if_pos hadmits]
        exact hc
      · cases hrest
  rw [hcharacter, Option.bind_some, afterApostrophe?_append_line, hr, Option.map_some]

/-- A quoted literal is read the same with further lines behind it. -/
theorem quoted?_append_line {k : LiteralKind} (h : quoted? u = some (k, r)) :
    quoted? (u ++ '\n' :: w) = some (k, r ++ '\n' :: w) := by
  have hmap {β : Type} {o o' : Option (β × List Char)} (kind : β → LiteralKind)
      (ho : o.map (fun x => (kind x.1, x.2)) = some (k, r))
      (happend : ∀ x, o = some x → o' = some (x.1, x.2 ++ '\n' :: w)) :
      o'.map (fun x => (kind x.1, x.2)) = some (k, r ++ '\n' :: w) := by
    obtain ⟨x, hx, heq⟩ := Option.map_eq_some_iff.1 ho
    cases heq
    rw [happend x hx, Option.map_some]
  have hsingle {rules : Text.Quoted.Rules} {kind : LiteralKind} {rest : List Char}
      (ho : (single? rules rest).map (fun rest => (kind, rest)) = some (k, r)) :
      (single? rules (rest ++ '\n' :: w)).map (fun rest => (kind, rest)) =
        some (k, r ++ '\n' :: w) := by
    obtain ⟨x, hx, heq⟩ := Option.map_eq_some_iff.1 ho
    cases heq
    rw [single?_append_line hx, Option.map_some]
  unfold quoted? at h
  split at h
  · exact hmap .text h fun _ hx => readFrom_append hx _
  · exact hmap (fun _ => .bytes) h fun _ hx => readFrom_append hx _
  · exact hmap (fun _ => .zeroEnded) h fun _ hx => readFrom_append hx _
  · exact hmap (fun _ => .bytes) h fun _ hx => raw?_append_line hx
  · exact hmap (fun _ => .zeroEnded) h fun _ hx => raw?_append_line hx
  · exact hmap .text h fun _ hx => raw?_append_line hx
  · exact hsingle h
  · exact hsingle h
  · cases h

/-- A number begins with a digit. -/
theorem isDigit_of_number? {c : Char} {x : LiteralKind × List Char}
    (h : number? (c :: u) = some x) : c.isDigit = true := by
  unfold number? at h
  split at h
  · next hdigit => exact hdigit
  · cases h

/-- A digit begins no quoted literal. -/
theorem quoted?_eq_none_of_isDigit {c : Char} (h : c.isDigit = true) : quoted? (c :: u) = none := by
  unfold quoted?
  split
  all_goals first
    | rfl
    | next heq =>
      obtain ⟨rfl, -⟩ := List.cons.inj heq
      exact absurd h (by decide)

/-- What follows a literal with its suffix is the same with further lines behind it. -/
theorem read?_append_line {l : Literal} (h : read? u = some (l, r)) :
    read? (u ++ '\n' :: w) = some (l, r ++ '\n' :: w) := by
  obtain ⟨⟨k, z⟩, hkind, heq⟩ := Option.map_eq_some_iff.1 h
  cases heq
  have hkind' : kind? (u ++ '\n' :: w) = some (k, r ++ '\n' :: w) := by
    unfold kind? at hkind ⊢
    cases hquoted : quoted? u with
    | some x =>
      rw [hquoted] at hkind
      cases hkind
      rw [quoted?_append_line hquoted]
      dsimp only
      rw [afterSuffix_append (stops_line w)]
    | none =>
      rw [hquoted] at hkind
      dsimp only at hkind
      have hnone : quoted? (u ++ '\n' :: w) = none := by
        rcases u with _ | ⟨c, rest⟩
        · cases hkind
        · exact quoted?_eq_none_of_isDigit (isDigit_of_number? hkind)
      rw [hnone]
      dsimp only
      rw [number?_append (stops_line w), hkind, Option.map_some]
  have hlength : (u ++ '\n' :: w).length - (r ++ '\n' :: w).length = u.length - r.length := by
    rw [List.length_append, List.length_append]
    omega
  rw [read?, hkind', Option.map_some]
  dsimp only
  rw [hlength, List.take_append_of_le_length (Nat.sub_le _ _)]

end Literal

end Scaffold.Source
