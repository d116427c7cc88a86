import Scaffold.Proofs.Source.Anchor.Types

/-!
# Elements in angle brackets

In angle brackets stands a list of generic arguments, or of generic parameters. The two kinds are
read in different ways, but tokens that are read as a list of the one kind in one place and as a
list of the other kind in another are read to the same angle bracket: an element of both kinds is
one token.

## Main definitions

* `Begins` - some tokens begin with a mark.
* `Ends` - they may follow an element.

## Main results

* `element_agree` - an element that is read off the same tokens as a parameter and as an argument.
* `elements_agree` - all such elements.
-/

namespace Scaffold.Source.Reader

variable {α β : Type} {ts rest : List Token} {type : Reader TypeTerm}

/-! ### The first mark -/

/-- Some tokens **begin with a mark**. -/
def Begins (c : Char) (ts : List Token) : Prop :=
  ∃ joint more, ts = .mark c joint :: more

/-- The mark with which tokens begin. -/
theorem Begins.eq {c d : Char} {joint : Bool} (h : Begins c (.mark d joint :: ts)) : d = c := by
  obtain ⟨_, _, heq⟩ := h
  cases heq
  rfl

/-- Tokens that begin with an operator begin with its first mark. -/
theorem begins_of_startsMarks {ms : String} {c : Char} {cs : List Char}
    (hms : ms.toList = c :: cs) (h : startsMarks ms ts = true) : Begins c ts := by
  obtain ⟨rest, hrest⟩ := Option.isSome_iff_exists.1 h
  rw [hms] at hrest
  obtain ⟨joint, more, rfl, -⟩ := afterMarks?_cons_inv hrest
  exact ⟨joint, more, rfl⟩

/-- An operator of one mark follows where tokens begin with it. -/
theorem startsMarks_iff {ms : String} {c : Char} (hms : ms.toList = [c]) :
    startsMarks ms ts = true ↔ Begins c ts := by
  refine ⟨begins_of_startsMarks hms, ?_⟩
  rintro ⟨joint, more, rfl⟩
  rw [startsMarks, hms, afterMarks?, if_pos ⟨rfl, .inr rfl⟩]
  rfl

/-- An operator that is read is the beginning of the tokens. -/
theorem begins_of_marks {ms : String} {c : Char} {cs : List Char} {x : Unit × List Token}
    (hms : ms.toList = c :: cs) (h : marks ms ts = some x) : Begins c ts := by
  obtain ⟨rest, hrest, -⟩ := Option.map_eq_some_iff.1 h
  exact begins_of_startsMarks hms (Option.isSome_of_eq_some hrest)

/-- An operator that may be left out. -/
theorem optionalMarks_inv {ms : String} {b : Bool} (h : optionalMarks ms ts = some (b, rest)) :
    b = false ∧ startsMarks ms ts = false ∧ rest = ts ∨
      b = true ∧ afterMarks? ms.toList ts = some rest := by
  rw [optionalMarks, run_ahead] at h
  split at h
  · obtain ⟨_, mid, hmarks, heq⟩ := run_bind_inv h
    cases heq
    obtain ⟨_, hafter, heq⟩ := Option.map_eq_some_iff.1 hmarks
    cases heq
    exact .inr ⟨rfl, hafter⟩
  · next hstop =>
    cases h
    exact .inl ⟨rfl, Bool.not_eq_true _ ▸ hstop, rfl⟩

/-- What follows a mark that is read. -/
theorem marks_single_inv {ms : String} {c : Char} {joint : Bool} (hms : ms.toList = [c])
    (h : marks ms (.mark c joint :: ts) = some ((), rest)) : rest = ts := by
  obtain ⟨_, hafter, heq⟩ := Option.map_eq_some_iff.1 h
  cases heq
  rw [hms] at hafter
  obtain ⟨_, _, heq, hrest⟩ := afterMarks?_cons_inv hafter
  cases heq
  exact (Option.some.inj hrest).symm

/-- Nothing but an identifier is read as one. -/
theorem identifier_inv {n : Name} (h : identifier ts = some (n, rest)) :
    ts = .name n :: rest ∧ n.isIdentifier = true := by
  rcases ts with _ | ⟨t, ts⟩
  · cases h
  obtain ⟨m, htest, heq⟩ := Option.map_eq_some_iff.1 h
  cases heq
  cases t with
  | name m =>
    dsimp only at htest
    split at htest
    · next hm =>
      cases htest
      exact ⟨rfl, hm⟩
    · cases htest
  | _ => cases htest

/-! ### What follows an argument -/

/-- What may follow a generic argument or parameter. -/
def Ends (ts : List Token) : Prop :=
  ∃ c, (c = '>' ∨ c = ',') ∧ Begins c ts

/-- A mark that ends an element is a closing bracket or a comma. -/
theorem Ends.eq_of_mark {c : Char} {joint : Bool} (h : Ends (.mark c joint :: ts)) :
    c = '>' ∨ c = ',' := by
  obtain ⟨d, hd, hbegins⟩ := h
  rwa [← hbegins.eq] at hd

/-- The first element of a list in angle brackets, and what follows it. -/
theorem elements_inv {n : Nat} {r : Reader α} {as : List α}
    (h : elements (n + 1) (startsMarks ">") r ts = some (as, rest)) :
    Begins '>' ts ∧ rest = ts ∨ ¬ Begins '>' ts ∧ ∃ a mid, r ts = some (a, mid) ∧ Ends mid ∧
      (Begins '>' mid ∧ rest = mid ∨ ∃ joint more as', mid = .mark ',' joint :: more ∧
        elements n (startsMarks ">") r more = some (as', rest)) := by
  have hangle {ts : List Token} : startsMarks ">" ts = true ↔ Begins '>' ts := startsMarks_iff rfl
  rw [elements, run_ahead] at h
  split at h
  · next hend =>
    cases h
    exact .inl ⟨hangle.1 hend, rfl⟩
  · next hgo =>
    obtain ⟨a, mid, hrun, hmore⟩ := run_bind_inv h
    refine .inr ⟨mt hangle.2 hgo, a, mid, hrun, ?_⟩
    rw [run_ahead] at hmore
    split at hmore
    · next hend =>
      cases hmore
      exact ⟨⟨'>', .inl rfl, hangle.1 hend⟩, .inl ⟨hangle.1 hend, rfl⟩⟩
    · obtain ⟨_, more, hcomma, hmore⟩ := run_bind_inv hmore
      obtain ⟨as', _, hrest, heq⟩ := run_bind_inv hmore
      cases heq
      obtain ⟨_, hafter, heq⟩ := Option.map_eq_some_iff.1 hcomma
      cases heq
      obtain ⟨joint, _, rfl, hmid⟩ := @afterMarks?_cons_inv _ _ ',' [] hafter
      cases hmid
      exact ⟨⟨',', .inr rfl, joint, more, rfl⟩, .inr ⟨joint, more, as', rfl, hrest⟩⟩

/-- A repetition reads nothing, or an element. -/
theorem many_inv {goesOn : List Token → Bool} {r : Reader α} {as : List α}
    (h : many goesOn r ts = some (as, rest)) :
    rest = ts ∨ goesOn ts = true ∧ (r ts).isSome := by
  rw [many, run_get] at h
  rcases ts with _ | ⟨t, ts⟩
  · cases h
    exact .inl rfl
  rw [List.length_cons, manyWithin, run_ahead] at h
  split at h
  · next hgo =>
    obtain ⟨a, mid, hrun, -⟩ := run_bind_inv h
    exact .inr ⟨hgo, Option.isSome_of_eq_some hrun⟩
  · cases h
    exact .inl rfl

/-- How a path goes on behind a name: by arguments or none, and by further names or none. -/
structure Continues (type : Reader TypeTerm) (ts mid rest : List Token) : Prop where
  arguments : mid = ts ∨ startsArguments false ts = true ∧ ∃ as, arguments type ts = some (as, mid)
  further : rest = mid ∨ startsSegment mid = true ∧
    ((marks "::" >>= fun _ => segment false type) mid).isSome

/-- A path that begins with an identifier. -/
theorem path_name_inv {n : Name} {p : Path} (hn : n.isIdentifier = true)
    (h : path false type (.name n :: ts) = some (p, rest)) : ∃ mid, Continues type ts mid rest := by
  obtain ⟨_, _, hcolons, h⟩ := run_bind_inv h
  cases (@optionalMarks_run _ "::" rfl).symm.trans hcolons
  obtain ⟨_, mid, hsegment, h⟩ := run_bind_inv h
  obtain ⟨_, _, hmany, heq⟩ := run_bind_inv h
  cases heq
  refine ⟨mid, ?_, many_inv hmany⟩
  rw [segment, run_ahead, startsAnyOf_eq_false hn (by rfl), if_neg Bool.false_ne_true, run_ahead,
    startsWord_eq_false hn (by rfl), if_neg Bool.false_ne_true] at hsegment
  have hsegment := (run_bind (identifier_run hn)).symm.trans hsegment
  dsimp only at hsegment
  rw [run_ahead] at hsegment
  split at hsegment
  · next hstart =>
    obtain ⟨as, _, hrun, heq⟩ := run_bind_inv hsegment
    cases heq
    exact .inr ⟨hstart, as, hrun⟩
  · cases hsegment
    exact .inl rfl

/-- A type that begins with an identifier. -/
theorem type_name_inv {n : Name} {t : TypeTerm} (htype : ReadsTypes type)
    (hn : n.isIdentifier = true) (h : type (.name n :: ts) = some (t, rest)) :
    ∃ inner, ReadsTypes inner ∧ ∃ mid last, Continues inner ts mid last ∧
      (rest = last ∨ Begins '+' last) := by
  obtain ⟨k, hk⟩ := htype (.name n :: ts)
  rw [hk] at h
  cases k with
  | zero => cases h
  | succ k =>
    rw [typeWithin_name _ _ _ (isWord_eq_false_of_isIdentifier hn (by decide))] at h
    obtain ⟨_, last, hpath, h⟩ := run_bind_inv h
    obtain ⟨mid, hmid⟩ := path_name_inv hn hpath
    refine ⟨typeWithin k true, readsTypes_typeWithin k, mid, last, hmid, ?_⟩
    rw [run_ahead, Bool.true_and] at h
    split at h
    · next hplus => exact .inr (begins_of_startsMarks rfl hplus)
    · cases h
      exact .inl rfl

/-- A path does not begin with any other name but a few words. -/
theorem segment_eq_none {n : Name} (hn : n.isIdentifier = false)
    (hwords : ∀ w ∈ "Self" :: pathWords, n.isWord w = false) :
    segment false type (.name n :: ts) = none := by
  have hplain : startsAnyOf pathWords (.name n :: ts) = false := by
    rw [startsAnyOf, List.any_eq_false]
    intro w hw
    rw [Bool.not_eq_true]
    exact hwords w (List.mem_cons_of_mem _ hw)
  have hself : startsWord "Self" (.name n :: ts) = false := hwords _ List.mem_cons_self
  have hidentifier : identifier (.name n :: ts) = none := by
    rw [identifier, one]
    dsimp only
    rw [hn]
    rfl
  rw [segment, run_ahead, hplain, if_neg Bool.false_ne_true, run_ahead, hself,
    if_neg Bool.false_ne_true]
  change (identifier (.name n :: ts)).bind _ = none
  rw [hidentifier, Option.bind_none]

/-- A type does not begin with the word that begins a constant parameter. -/
theorem type_const {n : Name} (htype : ReadsTypes type) (hn : n.isWord "const" = true) :
    type (.name n :: ts) = none := by
  have hother {words : List String} (h : "const" ∉ words) : ∀ w ∈ words, n.isWord w = false :=
    fun w hw => isWord_eq_false hn fun heq => h (heq ▸ hw)
  have hkeyword : n.isIdentifier = false := by
    rw [← Bool.not_eq_true]
    intro h
    rw [@isWord_eq_false_of_isIdentifier n ["const"] h (by decide) _ List.mem_cons_self] at hn
    cases hn
  obtain ⟨k, hk⟩ := htype (.name n :: ts)
  rw [hk]
  cases k with
  | zero => rfl
  | succ k =>
    rw [typeWithin_name _ _ _ (hother (by decide)), ← Option.not_isSome_iff_eq_none]
    intro h
    obtain ⟨x, hnamed⟩ := Option.isSome_iff_exists.1 h
    obtain ⟨_, _, hpath, -⟩ := run_bind_inv hnamed
    obtain ⟨_, _, hcolons, hrest⟩ := run_bind_inv hpath
    cases (@optionalMarks_run _ "::" rfl).symm.trans hcolons
    obtain ⟨_, _, hsegment, -⟩ := run_bind_inv hrest
    rw [segment_eq_none hkeyword (hother (by decide))] at hsegment
    cases hsegment

/-- Neither does an argument. -/
theorem argument_const {n : Name} (htype : ReadsTypes type) (hn : n.isWord "const" = true) :
    argument type (.name n :: ts) = none := by
  rw [argument, run_get]
  change (type (.name n :: ts)).bind _ = none
  rw [type_const htype hn, Option.bind_none]

/-- Arguments behind a name begin with an angle bracket, or colons. -/
theorem begins_of_startsArguments (h : startsArguments false ts = true) :
    Begins '<' ts ∨ Begins ':' ts := by
  unfold startsArguments at h
  split at h
  · next hafter => exact .inr (begins_of_startsMarks rfl (Option.isSome_of_eq_some hafter))
  · rw [Bool.not_false, Bool.true_and, Bool.and_eq_true] at h
    exact .inl (begins_of_startsMarks rfl h.1)

/-- Behind colons, too, they begin with an angle bracket. -/
theorem startsArguments_colon {joint : Bool}
    (h : startsArguments false (.mark ':' joint :: ts) = true) :
    ∃ rest, afterMarks? "::".toList (.mark ':' joint :: ts) = some rest ∧ Begins '<' rest := by
  unfold startsArguments at h
  split at h
  · next rest hafter => exact ⟨rest, hafter, begins_of_startsMarks rfl h⟩
  · rw [Bool.not_false, Bool.true_and, Bool.and_eq_true] at h
    have hangle := @begins_of_startsMarks _ "<" _ _ rfl h.1
    exact absurd hangle.eq (by decide)

/-- An identifier as an argument: its own arguments may follow, and then other marks may follow
which do not end it. -/
theorem argument_name_inv {n : Name} {a : Argument} (htype : ReadsTypes type)
    (hn : n.isIdentifier = true) (h : argument type (.name n :: ts) = some (a, rest))
    (hend : Ends rest) :
    ∃ inner mid, ReadsTypes inner ∧
      (mid = ts ∨ startsArguments false ts = true ∧ ∃ as, arguments inner ts = some (as, mid)) ∧
      (Ends mid ∧ rest = mid ∨ Begins '+' mid ∨ Begins ':' mid ∧
        ((marks "::" >>= fun _ => segment false inner) mid).isSome) := by
  rw [argument, run_get] at h
  dsimp only at h
  obtain ⟨t, last, htypes, h⟩ := run_bind_inv h
  cases h
  obtain ⟨inner, hinner, mid, last, hcontinues, hlast⟩ := type_name_inv htype hn htypes
  refine ⟨inner, mid, hinner, hcontinues.arguments, ?_⟩
  rcases hcontinues.further with rfl | ⟨-, hsegment⟩
  · rcases hlast with rfl | hplus
    · exact .inl ⟨hend, rfl⟩
    · exact .inr (.inl hplus)
  · obtain ⟨x, hx⟩ := Option.isSome_iff_exists.1 hsegment
    obtain ⟨_, _, hcolons, -⟩ := run_bind_inv hx
    exact .inr (.inr ⟨begins_of_marks rfl hcolons, hsegment⟩)

/-- Where no mark follows that would go on with it, an identifier is an argument by itself. -/
theorem argument_name_ends {n : Name} {a : Argument} {c : Char} {joint : Bool}
    (htype : ReadsTypes type) (hn : n.isIdentifier = true)
    (h : argument type (.name n :: .mark c joint :: ts) = some (a, rest)) (hend : Ends rest)
    (hc : c ∉ ['<', ':', '+']) : rest = .mark c joint :: ts := by
  simp only [List.mem_cons, List.not_mem_nil, or_false, not_or] at hc
  obtain ⟨hangle, hcolon, hplus⟩ := hc
  obtain ⟨inner, mid, -, harguments, hlast⟩ := argument_name_inv htype hn h hend
  have hmid : mid = .mark c joint :: ts := by
    rcases harguments with hmid | ⟨hstart, -⟩
    · exact hmid
    · rcases begins_of_startsArguments hstart with hbegins | hbegins
      · exact absurd hbegins.eq hangle
      · exact absurd hbegins.eq hcolon
  subst hmid
  rcases hlast with ⟨-, hrest⟩ | hbegins | ⟨hbegins, -⟩
  · exact hrest
  · exact absurd hbegins.eq hplus
  · exact absurd hbegins.eq hcolon

/-! ### What follows a parameter -/

/-- A parameter begins with a lifetime or a name. -/
theorem genericParameter_head {t : Token} {x : GenericParameter × List Token}
    (h : genericParameter (t :: ts) = some x) : (∃ n, t = .lifetime n) ∨ ∃ n, t = .name n := by
  cases t with
  | lifetime n => exact .inl ⟨n, rfl⟩
  | name n => exact .inr ⟨n, rfl⟩
  | _ => cases h

/-- What follows a name or lifetime with bounds or without. -/
theorem bounds_inv {r : Reader α} {f : List α → Reader β} {x : β × List Token}
    (h : (optionalMarks ":" >>= fun b =>
      if b = true then boundsUntil endsBounds r >>= f else pure [] >>= f) ts = some x) :
    f [] ts = some x ∨ ∃ joint more, ts = .mark ':' joint :: more ∧
      (boundsUntil endsBounds r more).isSome := by
  obtain ⟨b, mid, hcolon, hbounds⟩ := run_bind_inv h
  rcases optionalMarks_inv hcolon with ⟨rfl, -, rfl⟩ | ⟨rfl, hafter⟩
  · exact .inl hbounds
  · obtain ⟨joint, more, rfl, hmore⟩ := @afterMarks?_cons_inv _ _ ':' [] hafter
    cases hmore
    obtain ⟨_, _, hbounds, -⟩ := run_bind_inv hbounds
    exact .inr ⟨joint, _, rfl, Option.isSome_of_eq_some hbounds⟩

/-- A lifetime as a parameter. -/
theorem genericParameter_lifetime_inv {n : Name} {a : GenericParameter}
    (h : genericParameter (.lifetime n :: ts) = some (a, rest)) : rest = ts ∨ Begins ':' ts := by
  rw [genericParameter, run_get] at h
  obtain ⟨_, _, hlifetime, h⟩ := run_bind_inv h
  cases hlifetime
  rcases bounds_inv h with h | ⟨joint, more, h, -⟩
  · cases h
    exact .inl rfl
  · exact .inr ⟨joint, more, h⟩

/-- A name as a parameter. -/
theorem genericParameter_name_inv {n : Name} {a : GenericParameter}
    (h : genericParameter (.name n :: ts) = some (a, rest)) :
    n.isWord "const" = true ∨ n.isIdentifier = true ∧ (rest = ts ∨ Begins '=' ts ∨
      ∃ joint more, ts = .mark ':' joint :: more ∧
        (boundsUntil endsBounds (bound typeTerm) more).isSome) := by
  rw [genericParameter, run_get] at h
  dsimp only at h
  split at h
  · next hconst => exact .inl hconst
  · obtain ⟨_, _, hname, h⟩ := run_bind_inv h
    obtain ⟨heq, hn⟩ := identifier_inv hname
    cases heq
    refine .inr ⟨hn, ?_⟩
    rcases bounds_inv h with hplain | hcolon
    · obtain ⟨b, _, hequals, hdefault⟩ := run_bind_inv hplain
      rcases optionalMarks_inv hequals with ⟨rfl, -, rfl⟩ | ⟨rfl, hafter⟩
      · cases hdefault
        exact .inl rfl
      · exact .inr (.inl (begins_of_startsMarks rfl (Option.isSome_of_eq_some hafter)))
    · exact .inr (.inr hcolon)

/-- The bounds of a parameter do not begin with one colon. -/
theorem begins_of_bounds {joint : Bool}
    (h : (boundsUntil endsBounds (bound typeTerm) (.mark ':' joint :: ts)).isSome) :
    Begins ':' ts := by
  obtain ⟨x, hx⟩ := Option.isSome_iff_exists.1 h
  have hgo : endsBounds (.mark ':' joint :: ts) = false := rfl
  rw [boundsUntil, run_ahead, hgo, if_neg Bool.false_ne_true] at hx
  obtain ⟨_, _, hbound, -⟩ := run_bind_inv hx
  rw [bound, run_get] at hbound
  dsimp only at hbound
  obtain ⟨_, _, hoptional, hpath⟩ := run_bind_inv hbound
  cases (@optionalMarks_run _ "?" rfl).symm.trans hoptional
  obtain ⟨_, _, hpath, -⟩ := run_bind_inv hpath
  obtain ⟨_, _, hcolons, hrest⟩ := run_bind_inv hpath
  obtain ⟨_, _, hsegment, -⟩ := run_bind_inv hrest
  rcases optionalMarks_inv hcolons with ⟨rfl, -, rfl⟩ | ⟨rfl, hafter⟩
  · cases hsegment
  · obtain ⟨_, more, heq, hafter⟩ := @afterMarks?_cons_inv _ _ ':' [':'] hafter
    cases heq
    obtain ⟨joint, more, rfl, -⟩ := afterMarks?_cons_inv hafter
    exact ⟨joint, more, rfl⟩

/-! ### Parameters that are arguments -/

section

variable {w post post' : List Token} {joint : Bool}

/-- Tokens in front of a brace that begin with a mark. -/
theorem Begins.of_append {c : Char} {d : Delimiter} (h : Begins c (w ++ .opening d :: post)) :
    ∃ joint w', w = .mark c joint :: w' := by
  obtain ⟨joint, more, heq⟩ := h
  cases w with
  | nil => cases heq
  | cons t w =>
    cases heq
    exact ⟨joint, w, rfl⟩

/-- Behind two colons that are also read as the beginning of bounds, **a third one** stands. -/
theorem begins_of_colons {joint' : Bool}
    (hbounds : (boundsUntil endsBounds (bound typeTerm) (w ++ .opening .brace :: post)).isSome)
    (hafter : afterMarks? "::".toList (.mark ':' joint' :: (w ++ .mark '>' joint :: post')) =
      some rest) : Begins ':' rest := by
  obtain ⟨_, more, heq, hafter⟩ := @afterMarks?_cons_inv _ _ ':' [':'] hafter
  cases heq
  obtain ⟨_, more, heq, hmore⟩ := @afterMarks?_cons_inv _ _ ':' [] hafter
  cases hmore
  rcases w with _ | ⟨t, w⟩
  · cases heq
  cases heq
  obtain ⟨joint, w', rfl⟩ := (begins_of_bounds hbounds).of_append
  exact ⟨joint, _, rfl⟩

/-- A colon behind a name does not begin bounds in the one place and an argument's path in the
other: the path goes on behind a second colon, where bounds would have a third one. -/
theorem argument_bounds_absurd {n : Name} {joint' : Bool} {b : Argument} {mid : List Token}
    (htype : ReadsTypes type) (hn : n.isIdentifier = true)
    (hbounds : (boundsUntil endsBounds (bound typeTerm) (w ++ .opening .brace :: post)).isSome)
    (h : argument type (.name n :: .mark ':' joint' :: (w ++ .mark '>' joint :: post')) =
      some (b, mid)) (hend : Ends mid) : False := by
  obtain ⟨inner, last, -, harguments, hlast⟩ := argument_name_inv htype hn h hend
  rcases harguments with rfl | ⟨hstart, -⟩
  · rcases hlast with ⟨hend, -⟩ | hplus | ⟨-, hsegment⟩
    · exact absurd hend.eq_of_mark (by decide)
    · exact absurd hplus.eq (by decide)
    · obtain ⟨x, hx⟩ := Option.isSome_iff_exists.1 hsegment
      obtain ⟨_, _, hcolons, hsegment⟩ := run_bind_inv hx
      obtain ⟨_, hafter, heq⟩ := Option.map_eq_some_iff.1 hcolons
      cases heq
      obtain ⟨_, _, rfl⟩ := begins_of_colons hbounds hafter
      cases hsegment
  · obtain ⟨rest, hafter, hangle⟩ := startsArguments_colon hstart
    obtain ⟨_, _, rfl⟩ := begins_of_colons hbounds hafter
    exact absurd hangle.eq (by decide)

/-- An element that is read **both as a parameter and as an argument** is one token. -/
theorem element_agree {t : Token} {a : GenericParameter} {b : Argument} {mid mid' : List Token}
    (htype : ReadsTypes type)
    (h : genericParameter (t :: (w ++ .opening .brace :: post)) = some (a, mid)) (hend : Ends mid)
    (h' : argument type (t :: (w ++ .mark '>' joint :: post')) = some (b, mid'))
    (hend' : Ends mid') :
    mid = w ++ .opening .brace :: post ∧ mid' = w ++ .mark '>' joint :: post' := by
  rcases genericParameter_head h with ⟨n, rfl⟩ | ⟨n, rfl⟩
  · obtain rfl : mid' = w ++ .mark '>' joint :: post' := by
      cases h'
      rfl
    rcases genericParameter_lifetime_inv h with rfl | hcolon
    · exact ⟨rfl, rfl⟩
    · obtain ⟨_, w, rfl⟩ := hcolon.of_append
      exact absurd hend'.eq_of_mark (by decide)
  rcases genericParameter_name_inv h with hconst | ⟨hn, hfollows⟩
  · rw [argument_const htype hconst] at h'
    cases h'
  rcases hfollows with rfl | hequals | ⟨_, more, heq, hbounds⟩
  · refine ⟨rfl, ?_⟩
    obtain ⟨c, hc, hbegins⟩ := hend
    obtain ⟨_, w, rfl⟩ := hbegins.of_append
    refine argument_name_ends htype hn h' hend' ?_
    rcases hc with rfl | rfl <;> decide
  · obtain ⟨_, w, rfl⟩ := hequals.of_append
    obtain rfl := argument_name_ends htype hn h' hend' (by decide)
    exact absurd hend'.eq_of_mark (by decide)
  · obtain ⟨_, w, rfl⟩ := Begins.of_append ⟨_, _, heq⟩
    cases heq
    exact (argument_bounds_absurd htype hn hbounds h' hend').elim

/-- Parameters and arguments that are read off the same tokens **end at the same angle bracket**,
which is one of these tokens. The induction is on the elements. -/
theorem elements_agree {n k : Nat} {ps : List GenericParameter} {as : List Argument}
    {rest rest' : List Token} (htype : ReadsTypes type)
    (h : elements n (startsMarks ">") genericParameter (w ++ .opening .brace :: post) =
      some (ps, rest))
    (h' : elements k (startsMarks ">") (argument type) (w ++ .mark '>' joint :: post') =
      some (as, rest')) :
    ∃ angle w', .mark '>' angle :: w' <:+ w ∧
      rest = .mark '>' angle :: (w' ++ .opening .brace :: post) ∧
      rest' = .mark '>' angle :: (w' ++ .mark '>' joint :: post') := by
  induction n generalizing k w ps as with
  | zero => cases h
  | succ n ih =>
    cases k with
    | zero => cases h'
    | succ k =>
      rcases elements_inv h with ⟨hend, rfl⟩ | ⟨hgo, a, mid, hrun, hends, hmore⟩
      · obtain ⟨angle, w', rfl⟩ := hend.of_append
        rcases elements_inv h' with ⟨-, rfl⟩ | ⟨hgo', -⟩
        · exact ⟨angle, w', List.suffix_rfl, rfl, rfl⟩
        · exact absurd ⟨angle, _, rfl⟩ hgo'
      rcases w with _ | ⟨t, w⟩
      · cases hrun
      rcases elements_inv h' with ⟨⟨angle, _, heq⟩, -⟩ | ⟨-, b, mid', hrun', hends', hmore'⟩
      · cases heq
        exact absurd ⟨angle, _, rfl⟩ hgo
      obtain ⟨rfl, rfl⟩ := element_agree htype hrun hends hrun' hends'
      rcases hmore with ⟨hend, rfl⟩ | ⟨comma, more, ps, heq, hrest⟩
      · obtain ⟨angle, w', rfl⟩ := hend.of_append
        rcases hmore' with ⟨-, rfl⟩ | ⟨_, _, _, heq, -⟩
        · exact ⟨angle, w', List.suffix_cons _ _, rfl, rfl⟩
        · have hcomma : Begins ',' _ := ⟨_, _, heq⟩
          exact absurd hcomma.eq (by decide)
      · obtain ⟨_, w', rfl⟩ := Begins.of_append ⟨comma, more, heq⟩
        cases heq
        rcases hmore' with ⟨hend', -⟩ | ⟨_, _, as, heq, hrest'⟩
        · exact absurd hend'.eq (by decide)
        · cases heq
          obtain ⟨angle, w'', hsuffix, heq, heq'⟩ := ih hrest hrest'
          exact ⟨angle, w'', (hsuffix.trans (List.suffix_cons _ _)).trans (List.suffix_cons _ _),
            heq, heq'⟩

end

end Scaffold.Source.Reader
