import Scaffold.Source.Reader.Items

/-!
# Runs of readers

What the readers give on tokens of which the first ones are known. A reader that is put together
from others is run step by step; a repetition is run by a relation that lists its elements, so
that the bound on the number of elements is dealt with once.

## Main definitions

* `Repeats` - the elements that a repetition reads one after another.
* `Lists` - the elements, separated by commas, that a list reads.

## Main results

* `Repeats.many_run`, `Lists.commaList_run` - repetitions and lists.
* `path_run`, `bound_run`, `typeTerm_run` - an identifier as a path, a bound and a type.
-/

namespace Scaffold.Source.Reader

variable {α β : Type} {ts rest : List Token}

/-! ### Steps -/

/-- A reader followed by another one. -/
theorem run_bind {r : Reader α} {f : α → Reader β} {a : α} (h : r ts = some (a, rest)) :
    (r >>= f) ts = f a rest := by
  change (r ts).bind (fun x => f x.1 x.2) = f a rest
  rw [h, Option.bind_some]

/-- Both of them succeed if the two together do. -/
theorem run_bind_inv {r : Reader α} {f : α → Reader β} {x : β × List Token}
    (h : (r >>= f) ts = some x) : ∃ a mid, r ts = some (a, mid) ∧ f a mid = some x := by
  obtain ⟨⟨a, mid⟩, hr, hf⟩ := Option.bind_eq_some_iff.1 h
  exact ⟨a, mid, hr, hf⟩

/-- A test of what follows. -/
theorem run_ahead (test : List Token → Bool) (f : Bool → Reader β) (ts : List Token) :
    (ahead test >>= f) ts = f (test ts) ts :=
  rfl

/-- A reader that looks at what follows. -/
theorem run_get (f : List Token → Reader β) (ts : List Token) : (get >>= f) ts = f ts ts :=
  rfl

/-- A condition that holds. -/
theorem run_require {condition : Bool} {f : Unit → Reader β} (h : condition = true) :
    (require condition >>= f) ts = f () ts := by
  rw [h]
  rfl

/-- Which keyword follows, where one does. -/
theorem startsWord_ofString (w v : String) :
    startsWord w (.name (.ofString v) :: ts) = (v == w) := by
  rw [startsWord, Name.isWord, Name.ofString, String.ofList_toList]
  rfl

/-- A keyword is read. -/
theorem word_run {w : String} : word w (.name (.ofString w) :: ts) = some ((), ts) := by
  rw [word, one]
  dsimp only
  rw [Name.isWord, Name.ofString, String.ofList_toList, beq_self_eq_true]
  rfl

/-- An operator is read. -/
theorem marks_run {ms : String} (h : afterMarks? ms.toList ts = some rest) :
    marks ms ts = some ((), rest) := by
  rw [marks, h, Option.map_some]

/-- An operator that follows. -/
theorem optionalMarks_present {ms : String} (h : afterMarks? ms.toList ts = some rest) :
    optionalMarks ms ts = some (true, rest) := by
  have hstart : startsMarks ms ts = true := by
    rw [startsMarks, h, Option.isSome_some]
  rw [optionalMarks, run_ahead, hstart, if_pos rfl]
  exact run_bind (marks_run h)

/-- An operator that does not follow. -/
theorem optionalMarks_run {ms : String} (h : startsMarks ms ts = false) :
    optionalMarks ms ts = some (false, ts) := by
  rw [optionalMarks, run_ahead, h]
  rfl

/-- What brackets enclose. -/
theorem within_run {d : Delimiter} {r : Reader α} {a : α}
    (h : r ts = some (a, .closing d :: rest)) :
    within d r (.opening d :: ts) = some (a, rest) := by
  have htoken (t : Token) (ts : List Token) : token t (t :: ts) = some ((), ts) := by
    rw [token, one, if_pos rfl, Option.map_some]
  refine (run_bind (htoken (.opening d) ts)).trans ?_
  refine (run_bind h).trans ?_
  refine (run_bind (htoken (.closing d) rest)).trans ?_
  rfl

/-- What follows some tokens is shorter than with them. -/
theorem length_lt_append {front : List Token} (h : 0 < front.length) :
    ts.length < (front ++ ts).length := by
  rw [List.length_append]
  omega

/-! ### Repetitions -/

/-- The elements that a reader gives, one after another, **as long as a test holds**, and what
follows them. -/
inductive Repeats (goesOn : List Token → Bool) (r : Reader α) :
    List Token → List α → List Token → Prop where
  | stop {ts : List Token} : goesOn ts = false → Repeats goesOn r ts [] ts
  | step {ts mid rest : List Token} {a : α} {as : List α} :
      goesOn ts = true → r ts = some (a, mid) → mid.length < ts.length →
      Repeats goesOn r mid as rest → Repeats goesOn r ts (a :: as) rest

/-- A repetition reads its elements, given that there are as many steps as tokens. -/
theorem Repeats.manyWithin_run {goesOn : List Token → Bool} {r : Reader α} {as : List α}
    (h : Repeats goesOn r ts as rest) :
    ∀ {n : Nat}, ts.length ≤ n → manyWithin n goesOn r ts = some (as, rest) := by
  induction h with
  | stop hstop =>
      intro n _
      cases n with
      | zero => rfl
      | succ n =>
          rw [manyWithin, run_ahead, hstop]
          rfl
  | step hgo hrun hshort _ ih =>
      intro n hn
      cases n with
      | zero => omega
      | succ n =>
          rw [manyWithin, run_ahead, hgo, if_pos rfl]
          refine (run_bind hrun).trans ?_
          refine (run_bind (ih (by omega))).trans ?_
          rfl

/-- A **repetition reads its elements**. -/
theorem Repeats.many_run {goesOn : List Token → Bool} {r : Reader α} {as : List α}
    (h : Repeats goesOn r ts as rest) : many goesOn r ts = some (as, rest) :=
  h.manyWithin_run Nat.le.refl

/-- A repetition that does not begin. -/
theorem many_run {goesOn : List Token → Bool} {r : Reader α} (h : goesOn ts = false) :
    many goesOn r ts = some ([], ts) :=
  (Repeats.stop h).many_run

/-- The elements, **separated by commas**, that a reader gives until a test says that the list
ends, and what follows them. -/
inductive Lists (atEnd : List Token → Bool) (r : Reader α) :
    List Token → List α → List Token → Prop where
  | nil {ts : List Token} : atEnd ts = true → Lists atEnd r ts [] ts
  | last {ts rest : List Token} {a : α} :
      atEnd ts = false → r ts = some (a, rest) → atEnd rest = true → Lists atEnd r ts [a] rest
  | cons {ts mid rest : List Token} {a : α} {as : List α} :
      atEnd ts = false → r ts = some (a, .mark ',' false :: mid) →
      atEnd (.mark ',' false :: mid) = false → mid.length < ts.length →
      Lists atEnd r mid as rest → Lists atEnd r ts (a :: as) rest

/-- A list reads its elements, given that there are more steps than tokens. -/
theorem Lists.elements_run {atEnd : List Token → Bool} {r : Reader α} {as : List α}
    (h : Lists atEnd r ts as rest) :
    ∀ {n : Nat}, ts.length < n → elements n atEnd r ts = some (as, rest) := by
  induction h with
  | nil hend =>
      intro n hn
      cases n with
      | zero => omega
      | succ n =>
          rw [elements, run_ahead, hend]
          rfl
  | last hgo hrun hend =>
      intro n hn
      cases n with
      | zero => omega
      | succ n =>
          rw [elements, run_ahead, hgo]
          refine (run_bind hrun).trans ?_
          refine (run_ahead _ _ _).trans ?_
          rw [hend]
          rfl
  | cons hgo hrun hmore hshort _ ih =>
      intro n hn
      cases n with
      | zero => omega
      | succ n =>
          rw [elements, run_ahead, hgo]
          refine (run_bind hrun).trans ?_
          refine (run_ahead _ _ _).trans ?_
          rw [hmore]
          refine (run_bind (marks_run rfl)).trans ?_
          refine (run_bind (ih (by omega))).trans ?_
          rfl

/-- A **list reads its elements**. -/
theorem Lists.commaList_run {atEnd : List Token → Bool} {r : Reader α} {as : List α}
    (h : Lists atEnd r ts as rest) : commaList atEnd r ts = some (as, rest) :=
  h.elements_run (Nat.lt_succ_self _)

/-- A list in brackets. -/
theorem Lists.listWithin_run {d : Delimiter} {r : Reader α} {as : List α}
    (h : Lists startsClosing r ts as (.closing d :: rest)) :
    listWithin d r (.opening d :: ts) = some (as, rest) :=
  within_run h.commaList_run

/-! ### Names -/

/-- An identifier is none of the words that are no identifiers. -/
theorem startsWord_eq_false {n : Name} {word : String} (h : n.isIdentifier = true)
    (hword : Name.keywords.contains word = true) : startsWord word (.name n :: ts) = false := by
  rw [startsWord, ← Bool.not_eq_true, Name.isWord, Bool.and_eq_true, Bool.not_eq_true',
    beq_iff_eq]
  rintro ⟨hraw, rfl⟩
  rw [Name.isIdentifier, hraw, hword] at h
  cases h

/-- An identifier is none of several such words. -/
theorem startsAnyOf_eq_false {n : Name} {words : List String} (h : n.isIdentifier = true)
    (hwords : words.all Name.keywords.contains = true) :
    startsAnyOf words (.name n :: ts) = false := by
  rw [startsAnyOf, ← Bool.not_eq_true, List.any_eq_true]
  rintro ⟨word, hmem, hstart⟩
  rw [startsWord_eq_false h (List.all_eq_true.1 hwords word hmem)] at hstart
  cases hstart

/-- So no name that is one of these words is an identifier. -/
theorem isWord_eq_false_of_isIdentifier {n : Name} {words : List String}
    (h : n.isIdentifier = true) (hwords : words.all Name.keywords.contains = true) :
    ∀ w ∈ words, n.isWord w = false :=
  fun w hw => @startsWord_eq_false [] n w h (List.all_eq_true.1 hwords w hw)

/-- An identifier is read. -/
theorem identifier_run {n : Name} (h : n.isIdentifier = true) :
    identifier (.name n :: ts) = some (n, ts) := by
  rw [identifier, one]
  dsimp only
  rw [h]
  rfl

/-- Any name is read where keywords may stand as well. -/
theorem anyName_run {n : Name} : anyName (.name n :: ts) = some (n, ts) :=
  rfl

/-- A word that does not follow. -/
theorem optionalWord_run {n : Name} {word : String} (h : n.isIdentifier = true)
    (hword : Name.keywords.contains word = true) :
    optionalWord word (.name n :: ts) = some (false, .name n :: ts) := by
  rw [optionalWord, run_ahead, startsWord_eq_false h hword]
  rfl

/-! ### Paths and types of one name -/

/-- Whether a path ends here: neither arguments nor a further name follow. -/
def endsPath (inExpression : Bool) (ts : List Token) : Bool :=
  !startsArguments inExpression ts && !startsSegment ts

/-- An identifier is read as a name of a path. -/
theorem segment_run {n : Name} {inExpression : Bool} {type : Reader TypeTerm}
    (h : n.isIdentifier = true) (hend : startsArguments inExpression ts = false) :
    segment inExpression type (.name n :: ts) = some (.mk n [], ts) := by
  rw [segment, run_ahead, startsAnyOf_eq_false h (by rfl), if_neg Bool.false_ne_true, run_ahead,
    startsWord_eq_false h (by rfl), if_neg Bool.false_ne_true]
  refine (run_bind (identifier_run h)).trans ?_
  refine (run_ahead _ _ _).trans ?_
  rw [hend]
  rfl

/-- An identifier is read as a **path**. -/
theorem path_run {n : Name} {inExpression : Bool} {type : Reader TypeTerm}
    (h : n.isIdentifier = true) (hend : endsPath inExpression ts = true) :
    path inExpression type (.name n :: ts) = some (.ofName n, ts) := by
  rw [endsPath, Bool.and_eq_true, Bool.not_eq_true', Bool.not_eq_true'] at hend
  rw [path]
  refine (run_bind (optionalMarks_run rfl)).trans ?_
  refine (run_bind (segment_run h hend.1)).trans ?_
  refine (run_bind (many_run hend.2)).trans ?_
  rfl

/-- An identifier is read as a **bound**. -/
theorem bound_run {n : Name} {type : Reader TypeTerm} (h : n.isIdentifier = true)
    (hend : endsPath false ts = true) :
    bound type (.name n :: ts) = some (.trait false false (.ofName n), ts) := by
  change traitBound false type (.name n :: ts) = _
  rw [traitBound]
  refine (run_bind (optionalMarks_run rfl)).trans ?_
  refine (run_bind (path_run h hend)).trans ?_
  rfl

/-- A type that begins with a name which is no word of a type is a path. -/
theorem typeWithin_name {n : Name} (k : Nat) (several : Bool) (ts : List Token)
    (h : ∀ w ∈ ["_", "fn", "dyn"], n.isWord w = false) :
    typeWithin (k + 1) several (.name n :: ts) =
      named several (typeWithin k true) (.name n :: ts) := by
  rw [typeWithin]
  change (if n.isWord "_" then _ else if n.isWord "fn" then _
    else if n.isWord "dyn" then _ else _ : Reader TypeTerm) (.name n :: ts) = _
  rw [h "_" (by decide), h "fn" (by decide), h "dyn" (by decide)]
  rfl

/-- An identifier is read as a **type**, where no plus sign follows it. -/
theorem typeTerm_run {n : Name} (h : n.isIdentifier = true) (hend : endsPath false ts = true)
    (hplus : startsMarks "+" ts = false) :
    typeTerm (.name n :: ts) = some (.path (.ofName n), ts) := by
  change typeWithin (ts.length + 1 + 1) true (.name n :: ts) = _
  rw [typeWithin_name _ _ _ (isWord_eq_false_of_isIdentifier h (by decide)), named]
  refine (run_bind (path_run h hend)).trans ?_
  rw [run_ahead, hplus]
  rfl

/-! ### Imports -/

/-- The last name of an import. -/
theorem useTreeWithin_name {n : Name} {k : Nat} (h : startsImported (.name n :: ts) = true)
    (hmore : startsMarks "::" ts = false) (has : startsWord "as" ts = false) :
    useTreeWithin (k + 1) (.name n :: ts) = some (.name n, ts) := by
  have hbrace : startsOpening .brace (.name n :: ts) = false := rfl
  have hall : startsMarks "*" (.name n :: ts) = false := rfl
  rw [useTreeWithin, run_get, hbrace, if_neg Bool.false_ne_true, hall, if_neg Bool.false_ne_true,
    run_require h]
  refine (run_bind anyName_run).trans ?_
  refine (run_bind (optionalMarks_run hmore)).trans ?_
  have hword : optionalWord "as" ts = some (false, ts) := by
    rw [optionalWord, run_ahead, has]
    rfl
  refine (run_bind hword).trans ?_
  rfl

/-- A name of an import in front of others. -/
theorem useTreeWithin_path {n : Name} {k : Nat} {t : UseTree}
    (h : ∀ ts, startsImported (.name n :: ts) = true) (hrest : useTreeWithin k ts = some (t, rest)) :
    useTreeWithin (k + 1) (.name n :: .mark ':' true :: .mark ':' false :: ts) =
      some (.path n t, rest) := by
  have hbrace (more : List Token) : startsOpening .brace (.name n :: more) = false := rfl
  have hall (more : List Token) : startsMarks "*" (.name n :: more) = false := rfl
  rw [useTreeWithin, run_get, hbrace, if_neg Bool.false_ne_true, hall, if_neg Bool.false_ne_true,
    run_require (h _)]
  refine (run_bind anyName_run).trans ?_
  refine (run_bind (optionalMarks_present rfl)).trans ?_
  refine (run_bind hrest).trans ?_
  rfl

/-! ### Declarations -/

/-- A declaration without attributes in front of it. -/
theorem itemOf_run {e : Reader Expr} {s : Reader Statement} {i : Reader Item} {v : Visibility}
    {kind : ItemKind} {mid : List Token} (hattributes : startsMarks "#" ts = false)
    (hv : visibility ts = some (v, mid)) (hkind : itemKind v e s i mid = some (([], kind), rest)) :
    itemOf e s i ts = some (.mk [] v kind, rest) := by
  rw [itemOf]
  refine (run_bind (many_run hattributes)).trans ?_
  refine (run_bind hv).trans ?_
  refine (run_bind hkind).trans ?_
  rfl

/-- The keyword of a declaration **tells what it declares**, if no function follows. -/
theorem itemKind_run {v : Visibility} {e : Reader Expr} {s : Reader Statement} {i : Reader Item}
    {w : String} {r : Reader ItemKind} {kind : ItemKind}
    (hw : (w, r) ∈ [("use", useItem), ("struct", recordItem), ("const", constantItem e),
      ("static", staticItem e)])
    (hfunction : startsFunction qualifierWords (.name (.ofString w) :: ts) = false)
    (h : r (.name (.ofString w) :: ts) = some (kind, rest)) :
    itemKind v e s i (.name (.ofString w) :: ts) = some (([], kind), rest) := by
  have hplain : (r >>= fun k => pure ([], k) : Reader (List Attribute × ItemKind))
      (.name (.ofString w) :: ts) = some (([], kind), rest) := run_bind h
  simp only [List.mem_cons, List.not_mem_nil, or_false, Prod.mk.injEq] at hw
  rw [itemKind, run_get, hfunction]
  obtain ⟨rfl, rfl⟩ | ⟨rfl, rfl⟩ | ⟨rfl, rfl⟩ | ⟨rfl, rfl⟩ := hw <;>
    simp only [startsWord_ofString, String.reduceBEq, Bool.false_eq_true, if_false, if_true] <;>
    exact hplain

/-! ### Levels of types -/

/-- A type may have as many levels as there are tokens. -/
theorem typeTerm_eq (ts : List Token) : typeTerm ts = typeWithin (ts.length + 1) true ts :=
  rfl

/-- A type that begins with a parenthesis. -/
theorem typeWithin_paren (n : Nat) (several : Bool) (ts : List Token) :
    typeWithin (n + 1) several (.opening .paren :: ts) =
      tuple (typeWithin n true) (.opening .paren :: ts) := by
  rw [typeWithin]
  rfl

/-- A type that begins with a reference. -/
theorem typeWithin_reference (n : Nat) (several joint : Bool) (ts : List Token) :
    typeWithin (n + 1) several (.mark '&' joint :: ts) =
      reference (typeWithin n false) (.mark '&' joint :: ts) := by
  rw [typeWithin]
  cases joint <;> rfl

/-- A reference with a lifetime. -/
theorem reference_run {target : Reader TypeTerm} {n : Name} {t : TypeTerm}
    (hmutable : optionalWord "mut" ts = some (false, ts)) (h : target ts = some (t, rest)) :
    reference target (.mark '&' true :: .lifetime n :: ts) =
      some (.reference (some n) false t, rest) := by
  rw [reference]
  refine (run_bind (marks_run rfl)).trans ?_
  refine (run_get _ _).trans ?_
  have hlifetime : (some <$> lifetime : Reader (Option Name)) (.lifetime n :: ts) =
      some (some n, ts) := rfl
  refine (run_bind hlifetime).trans ?_
  refine (run_bind hmutable).trans ?_
  refine (run_bind h).trans ?_
  rfl

/-! ### Expressions -/

/-- An expression without operations. -/
theorem expression_run {operand : Reader Expr} {e : Expr} (h : operand ts = some (e, rest))
    (hend : operator? rest = none) : expression operand ts = some (e, rest) := by
  have hoperations : operations rest.length operand e rest = some (e, rest) := by
    cases rest.length with
    | zero => rfl
    | succ n =>
        rw [operations, run_get, hend]
        rfl
  rw [expression]
  refine (run_bind h).trans ?_
  rw [run_get, hoperations]

/-- A reference to an operand. -/
theorem operandWithin_reference {n : Nat} {e : Expr}
    (hmutable : optionalWord "mut" ts = some (false, ts))
    (h : operandWithin n ts = some (e, rest)) :
    operandWithin (n + 1) (.mark '&' false :: ts) = some (.reference false e, rest) := by
  have hstart : startsMarks "&" (.mark '&' false :: ts) = true := rfl
  rw [operandWithin, run_get, hstart, if_pos rfl]
  refine (run_bind (marks_run rfl)).trans ?_
  refine (run_bind hmutable).trans ?_
  refine (run_bind h).trans ?_
  rfl

/-- An operand without an operator in front of it. -/
theorem operandWithin_atom {n : Nat} {a e : Expr} {mid : List Token}
    (hreference : startsMarks "&" ts = false) (hoperator : prefixOperator? ts = none)
    (hatom : atom (expression (operandWithin n))
      (statement (expression (operandWithin n)) (itemWithin n)) ts = some (a, mid))
    (hcalls : calls (expression (operandWithin n)) a mid = some (e, rest)) :
    operandWithin (n + 1) ts = some (e, rest) := by
  rw [operandWithin, run_get, hreference, if_neg Bool.false_ne_true, hoperator]
  refine (run_bind hatom).trans ?_
  exact hcalls

/-- An expression that is not called. -/
theorem calls_run {e : Reader Expr} {f : Expr} (h : startsOpening .paren ts = false) :
    calls e f ts = some (f, ts) := by
  rw [calls]
  refine (run_bind (many_run h)).trans ?_
  rfl

/-- An expression that is called once, without arguments. -/
theorem calls_once {e : Reader Expr} {f : Expr} (h : startsOpening .paren ts = false) :
    calls e f (.opening .paren :: .closing .paren :: ts) = some (.call f [], ts) := by
  have hrepeat : Repeats (startsOpening .paren) (listWithin .paren e)
      (.opening .paren :: .closing .paren :: ts) [[]] ts := by
    refine .step rfl (Lists.nil rfl).listWithin_run ?_ (.stop h)
    simp only [List.length_cons]
    omega
  rw [calls]
  refine (run_bind hrepeat.many_run).trans ?_
  rfl

/-- An identifier begins a path or a record. -/
theorem atom_name {e : Reader Expr} {s : Reader Statement} {n : Name}
    (h : n.isIdentifier = true) :
    atom e s (.name n :: ts) = pathOrRecord e (.name n :: ts) := by
  change (if startsAnyOf ["true", "false"] (.name n :: ts) then
    (do return .literal ⟨.boolean, (← anyName).text⟩)
    else pathOrRecord e : Reader Expr) (.name n :: ts) = _
  rw [startsAnyOf_eq_false h (by rfl), if_neg Bool.false_ne_true]

/-- A bar begins a function without a name. -/
theorem atom_closure (e : Reader Expr) (s : Reader Statement) (joint : Bool) (ts : List Token) :
    atom e s (.mark '|' joint :: ts) = closure s (.mark '|' joint :: ts) := by
  cases joint <;> rfl

/-- A literal is an expression. -/
theorem expression_literal {n : Nat} {l : Literal} (hcall : startsOpening .paren ts = false)
    (hend : operator? ts = none) :
    expression (operandWithin (n + 1)) (.literal l :: ts) = some (.literal l, ts) :=
  expression_run (operandWithin_atom rfl rfl rfl (calls_run hcall)) hend

/-- A record whose type is named by an identifier. -/
theorem pathOrRecord_run {e : Reader Expr} {n : Name} {ms : List Member}
    (h : n.isIdentifier = true)
    (hmembers : listWithin .brace (member e) (.opening .brace :: ts) = some (ms, rest)) :
    pathOrRecord e (.name n :: .opening .brace :: ts) = some (.record (.ofName n) ms, rest) := by
  rw [pathOrRecord]
  refine (run_bind (path_run h rfl)).trans ?_
  refine (run_ahead _ _ _).trans ?_
  refine (run_bind hmembers).trans ?_
  rfl

/-- The value of a field. -/
theorem member_run {e : Reader Expr} {n : Name} {v : Expr} (h : n.isIdentifier = true)
    (hvalue : e ts = some (v, rest)) :
    member e (.name n :: .mark ':' false :: ts) = some (.full n v, rest) := by
  rw [member]
  refine (run_bind (identifier_run h)).trans ?_
  refine (run_bind (optionalMarks_present rfl)).trans ?_
  refine (run_bind hvalue).trans ?_
  rfl

/-- An array. -/
theorem Lists.array_run {e : Reader Expr} {es : List Expr}
    (h : Lists startsClosing e ts es (.closing .bracket :: rest)) :
    array e (.opening .bracket :: ts) = some (.array es, rest) := by
  rw [array]
  apply within_run
  cases h with
  | nil hend =>
      rfl
  | last hgo hrun _ =>
      refine (run_ahead _ _ _).trans ?_
      rw [hgo]
      refine (run_bind hrun).trans ?_
      rfl
  | cons hgo hrun _ _ hmore =>
      refine (run_ahead _ _ _).trans ?_
      rw [hgo]
      refine (run_bind hrun).trans ?_
      refine (run_bind (optionalMarks_run rfl)).trans ?_
      refine (run_bind (optionalMarks_present rfl)).trans ?_
      refine (run_bind hmore.commaList_run).trans ?_
      rfl

/-! ### Statements -/

/-- An expression with a semicolon behind it. -/
theorem statement_expression {e : Reader Expr} {i : Reader Item} {v : Expr}
    (hempty : startsMarks ";" ts = false) (hlet : startsWord "let" ts = false)
    (hitem : startsItem ts = false) (h : e ts = some (v, .mark ';' false :: rest)) :
    statement e i ts = some (.expression v true, rest) := by
  rw [statement, run_get, hempty, if_neg Bool.false_ne_true, hlet, if_neg Bool.false_ne_true,
    hitem, if_neg Bool.false_ne_true]
  refine (run_bind h).trans ?_
  rfl

/-- A declaration in a body. -/
theorem statement_declaration {e : Reader Expr} {i : Reader Item} {item : Item}
    (hempty : startsMarks ";" ts = false) (hlet : startsWord "let" ts = false)
    (hitem : startsItem ts = true) (h : i ts = some (item, rest)) :
    statement e i ts = some (.declaration item, rest) := by
  rw [statement, run_get, hempty, if_neg Bool.false_ne_true, hlet, if_neg Bool.false_ne_true,
    hitem, if_pos rfl]
  refine (run_bind h).trans ?_
  rfl

end Scaffold.Source.Reader
