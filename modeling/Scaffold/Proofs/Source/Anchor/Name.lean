import Scaffold.Proofs.Source.Anchor.Elements

/-!
# Tokens that are read as a name and in angle brackets

Behind the word that begins a record stands its name, with or without generic parameters. Tokens
that stand there and also, by themselves, in angle brackets, and of which the last is no mark, are
one identifier: a list in angle brackets of their own would have to be followed by the body of the
record in the one place, and by a mark in the other.

## Main results

* `follows_of_generic` - what stands behind an identifier in angle brackets.
* `eq_name_of_reads` - tokens that are read as a name and in angle brackets are one identifier.
-/

namespace Scaffold.Source.Reader

variable {α β : Type} {ts rest : List Token} {type : Reader TypeTerm}

/-! ### Records -/

/-- The body of a record begins with no mark but a semicolon. -/
theorem recordFields_mark {c : Char} {joint : Bool}
    (h : (recordFields (.mark c joint :: ts)).isSome) : c = ';' := by
  have hconditions : conditions (.mark c joint :: ts) = some ([], .mark c joint :: ts) := rfl
  obtain ⟨x, hx⟩ := Option.isSome_iff_exists.1 h
  have hparen : startsOpening .paren (.mark c joint :: ts) = false := rfl
  have hbrace : startsOpening .brace (.mark c joint :: ts) = false := rfl
  rw [recordFields, run_ahead, hparen, if_neg Bool.false_ne_true] at hx
  have hbody := (run_bind hconditions).symm.trans hx
  rw [run_ahead, hbrace, if_neg Bool.false_ne_true] at hbody
  obtain ⟨_, _, hsemicolon, -⟩ := run_bind_inv hbody
  exact (begins_of_marks rfl hsemicolon).eq

/-- A record has a name, behind which parameters and a body stand. -/
theorem recordItem_inv {s : Name} (h : (recordItem (.name s :: ts)).isSome) :
    ∃ n more ps rest, ts = .name n :: more ∧ n.isIdentifier = true ∧
      genericParameters more = some (ps, rest) ∧ (recordFields rest).isSome := by
  obtain ⟨x, hx⟩ := Option.isSome_iff_exists.1 h
  obtain ⟨_, mid, hword, hrecord⟩ := run_bind_inv hx
  obtain ⟨n, more, hname, hbody⟩ := run_bind_inv hrecord
  obtain ⟨ps, rest, hparameters, hrest⟩ := run_bind_inv hbody
  obtain ⟨_, _, hfields, -⟩ := run_bind_inv hrest
  obtain ⟨_, _, heq⟩ := Option.map_eq_some_iff.1 hword
  cases heq
  obtain ⟨rfl, hn⟩ := identifier_inv hname
  exact ⟨n, more, ps, rest, rfl, hn, hparameters, Option.isSome_of_eq_some hfields⟩

/-! ### Lists in angle brackets -/

/-- A list in angle brackets. -/
theorem angle_inv {r : Reader α} {f : List α → Reader β} {x : β × List Token}
    (h : (commaList (startsMarks ">") r >>= fun as => marks ">" >>= fun _ => f as) ts = some x) :
    ∃ n as mid rest, elements n (startsMarks ">") r ts = some (as, mid) ∧
      marks ">" mid = some ((), rest) ∧ f as rest = some x := by
  obtain ⟨as, mid, helements, h⟩ := run_bind_inv h
  obtain ⟨_, rest, hangle, h⟩ := run_bind_inv h
  exact ⟨_, as, mid, rest, helements, hangle, h⟩

/-- Parameters are a list in angle brackets, if they do not fail to appear. -/
theorem genericParameters_inv {ps : List GenericParameter}
    (h : genericParameters ts = some (ps, rest)) :
    ¬ Begins '<' ts ∧ rest = ts ∨ ∃ joint more n as mid, ts = .mark '<' joint :: more ∧
      elements n (startsMarks ">") genericParameter more = some (as, mid) ∧
      marks ">" mid = some ((), rest) := by
  obtain ⟨_, _, hangle, hrest⟩ := run_bind_inv h
  rcases optionalMarks_inv hangle with ⟨rfl, hstop, rfl⟩ | ⟨rfl, hafter⟩
  · cases hrest
    refine .inl ⟨fun hbegins => ?_, rfl⟩
    rw [(startsMarks_iff rfl).2 hbegins] at hstop
    cases hstop
  · obtain ⟨joint, rfl⟩ := afterMarks?_angle hafter
    obtain ⟨n, as, mid, _, helements, hclose, heq⟩ := angle_inv hrest
    cases heq
    exact .inr ⟨joint, _, n, _, mid, rfl, helements, hclose⟩

/-- So are arguments. -/
theorem arguments_inv {joint : Bool} {as : List Argument}
    (h : arguments type (.mark '<' joint :: ts) = some (as, rest)) :
    ∃ n mid, elements n (startsMarks ">") (argument type) ts = some (as, mid) ∧
      marks ">" mid = some ((), rest) := by
  obtain ⟨_, _, hcolons, hangle⟩ := run_bind_inv h
  cases (@optionalMarks_run _ "::" rfl).symm.trans hcolons
  obtain ⟨_, _, hangle, hrest⟩ := run_bind_inv hangle
  obtain ⟨_, hafter, heq⟩ := Option.map_eq_some_iff.1 hangle
  cases heq
  obtain ⟨_, heq⟩ := afterMarks?_angle hafter
  cases heq
  obtain ⟨n, as, mid, _, helements, hclose, heq⟩ := angle_inv hrest
  cases heq
  exact ⟨n, mid, helements, hclose⟩

/-- The end of an element is neither a semicolon nor an opening bracket. -/
theorem begins_of_ends (h : Ends ts) : ∃ c, c ∉ [';', '<'] ∧ Begins c ts := by
  obtain ⟨c, hc, hbegins⟩ := h
  refine ⟨c, ?_, hbegins⟩
  rcases hc with rfl | rfl <;> decide

/-- What follows an identifier that is the first of parameters. -/
theorem follows_of_parameters {n : Name} {joint : Bool} (hn : n.isIdentifier = true)
    (h : (genericParameters (.mark '<' joint :: .name n :: ts)).isSome) :
    ∃ c, c ∉ [';', '<'] ∧ Begins c ts := by
  have hword : n.isWord "const" = false :=
    @isWord_eq_false_of_isIdentifier n ["const"] hn (by decide) _ List.mem_cons_self
  obtain ⟨⟨ps, rest⟩, hrun⟩ := Option.isSome_iff_exists.1 h
  rcases genericParameters_inv hrun with ⟨hangle, -⟩ | ⟨_, _, k, as, mid, heq, helements, -⟩
  · exact absurd ⟨joint, _, rfl⟩ hangle
  cases heq
  cases k with
  | zero => cases helements
  | succ k =>
    rcases elements_inv helements with ⟨⟨_, _, heq⟩, -⟩ | ⟨-, a, mid, hname, hend, -⟩
    · cases heq
    rcases genericParameter_name_inv hname with hconst | ⟨-, rfl | hequals | ⟨_, _, rfl, -⟩⟩
    · rw [hword] at hconst
      cases hconst
    · exact begins_of_ends hend
    · exact ⟨'=', by decide, hequals⟩
    · exact ⟨':', by decide, _, _, rfl⟩

/-- What follows an identifier that is the first of arguments: it may have arguments itself. -/
theorem follows_of_arguments {n : Name} {joint : Bool} (htype : ReadsTypes type)
    (hn : n.isIdentifier = true)
    (h : (arguments type (.mark '<' joint :: .name n :: ts)).isSome) :
    (∃ c, c ∉ [';', '<'] ∧ Begins c ts) ∨ Begins '<' ts ∧ ∃ inner as mid c, ReadsTypes inner ∧
      arguments inner ts = some (as, mid) ∧ c ≠ ';' ∧ Begins c mid := by
  obtain ⟨⟨as, rest⟩, hrun⟩ := Option.isSome_iff_exists.1 h
  obtain ⟨k, mid, helements, -⟩ := arguments_inv hrun
  cases k with
  | zero => cases helements
  | succ k =>
    rcases elements_inv helements with ⟨⟨_, _, heq⟩, -⟩ | ⟨-, a, mid, hname, hend, -⟩
    · cases heq
    obtain ⟨inner, last, hinner, harguments, hlast⟩ := argument_name_inv htype hn hname hend
    have hmark : ∃ c, c ∉ [';', '<'] ∧ Begins c last := by
      rcases hlast with ⟨hend, -⟩ | hplus | ⟨hcolon, -⟩
      · exact begins_of_ends hend
      · exact ⟨'+', by decide, hplus⟩
      · exact ⟨':', by decide, hcolon⟩
    rcases harguments with rfl | ⟨hstart, as, harguments⟩
    · exact .inl hmark
    rcases begins_of_startsArguments hstart with hangle | hcolon
    · obtain ⟨c, hc, hbegins⟩ := hmark
      refine .inr ⟨hangle, inner, as, last, c, hinner, harguments, ?_, hbegins⟩
      rintro rfl
      exact hc List.mem_cons_self
    · exact .inl ⟨':', by decide, hcolon⟩

/-- What follows an identifier behind an angle bracket: another mark than a semicolon, behind the
arguments of the identifier if it has any. -/
theorem follows_of_generic {n : Name} {joint : Bool} (hn : n.isIdentifier = true)
    (h : (genericParameters (.mark '<' joint :: .name n :: ts)).isSome ∨
      ∃ type, ReadsTypes type ∧ (arguments type (.mark '<' joint :: .name n :: ts)).isSome) :
    (∃ c, c ∉ [';', '<'] ∧ Begins c ts) ∨ Begins '<' ts ∧ ∃ inner as mid c, ReadsTypes inner ∧
      arguments inner ts = some (as, mid) ∧ c ≠ ';' ∧ Begins c mid := by
  rcases h with h | ⟨type, htype, h⟩
  · exact .inl (follows_of_parameters hn h)
  · exact follows_of_arguments htype hn h

/-! ### Names -/

/-- Tokens that are read **both as the name of a record and in angle brackets** are one identifier,
provided that the last of them is no mark. -/
theorem eq_name_of_reads {s : Name} {us post post' : List Token} {joint joint' : Bool}
    (hrecord : (recordItem (.name s :: (us ++ .opening .brace :: post))).isSome)
    (hgeneric : (genericParameters (.mark '<' joint :: (us ++ .mark '>' joint' :: post'))).isSome ∨
      ∃ type, ReadsTypes type ∧
        (arguments type (.mark '<' joint :: (us ++ .mark '>' joint' :: post'))).isSome)
    (hlast : ∀ c joint, us.getLast? ≠ some (.mark c joint)) :
    ∃ n, us = [.name n] ∧ n.isIdentifier = true := by
  obtain ⟨n, more, ps, rest, heq, hn, hparameters, hfields⟩ := recordItem_inv hrecord
  rcases us with _ | ⟨t, us⟩
  · cases heq
  cases heq
  rcases us with _ | ⟨t, w⟩
  · exact ⟨n, rfl, hn⟩
  exfalso
  rcases follows_of_generic hn hgeneric with
    ⟨c, hc, hbegins⟩ | ⟨hangle, inner, as, mid, c, hinner, harguments, hc, hbegins⟩
  · -- the mark behind the name would begin the body of the record, or its parameters
    obtain ⟨j, _, heq⟩ := hbegins
    cases heq
    rcases genericParameters_inv hparameters with ⟨-, rfl⟩ | ⟨_, _, _, _, _, heq, -⟩
    · rw [recordFields_mark hfields] at hc
      exact hc List.mem_cons_self
    · cases heq
      exact hc (by decide)
  · -- the list behind the name ends at one angle bracket, as parameters and as arguments
    obtain ⟨j, _, heq⟩ := hangle
    cases heq
    rcases genericParameters_inv hparameters with
      ⟨hangle, -⟩ | ⟨_, _, k, _, last, heq, helements, hclose⟩
    · exact hangle ⟨j, _, rfl⟩
    cases heq
    obtain ⟨k', last', helements', hclose'⟩ := arguments_inv harguments
    obtain ⟨angle, w', hsuffix, rfl, rfl⟩ := elements_agree hinner helements helements'
    obtain rfl := marks_single_inv rfl hclose
    obtain rfl := marks_single_inv rfl hclose'
    rcases w' with _ | ⟨t, w'⟩
    · obtain ⟨front, rfl⟩ := hsuffix
      refine hlast '>' angle ?_
      rw [List.getLast?_cons_cons, ← List.cons_append, List.getLast?_concat]
    · obtain ⟨_, _, heq⟩ := hbegins
      cases heq
      exact hc (recordFields_mark hfields)

end Scaffold.Source.Reader
