import Scaffold.Proofs.Emit.Tree
import Scaffold.Proofs.Source.Reader

/-!
# Reading the tokens of generated source

The tokens of generated source are fixed but for the names and texts that are put in, and for
the commas at the ends of lists, which stand there or not. Whichever of these commas there are,
the tokens are read as the one tree.

## Main definitions

* `Tokens` - the tokens that generated source may be cut into.

## Main results

* `Tokens.ofTokens?_eq_some` - all of them give the tree.
-/

namespace Scaffold.Emit

open Handler (Descriptor)
open Source Source.Reader

/-! ### The tokens -/

/-- A word that is put into no quotes. -/
def word (s : String) : Token :=
  .name (.ofString s)

/-- A comma that may be left out. -/
def commaIf (present : Bool) : List Token :=
  if present then [.mark ',' false] else []

/-- The attribute that allows types in lower case. -/
def allowanceTokens : List Token := [
  .mark '#' true, .mark '!' false, .opening .bracket, word "allow", .opening .paren,
  word "non_camel_case_types", .closing .paren, .closing .bracket]

/-- The path of the trait. -/
def pathTokens (steps : List Name) (name : Name) : List Token :=
  steps.flatMap (fun n => [.name n, .mark ':' true, .mark ':' false]) ++ [.name name]

/-- The import of the trait. -/
def importTokens (p : TraitPath) : List Token :=
  word "use" :: pathTokens p.steps p.name ++ [.mark ';' false]

/-- The bounds of handlers. -/
def boundTokens (t : Name) : List Token :=
  [.name t, .mark '+' false, word "Sync"]

/-- A field of the entries that is a text. -/
def textFieldTokens (name : String) : List Token := [
  word "pub", word name, .mark ':' false, .mark '&' true, .lifetime (.ofString "static"),
  word "str", .mark ',' false]

/-- The field of the entries that is a handler. -/
def handlerFieldTokens (t : Name) : List Token :=
  [word "pub", word "handler", .mark ':' false, .mark '&' true, .lifetime (.ofString "static"),
    .opening .paren, word "dyn"] ++ boundTokens t ++ [.closing .paren, .mark ',' false]

/-- The declaration of the type of the entries. -/
def handlerTokens (t : Name) : List Token :=
  [word "pub", word "struct", word "Handler", .opening .brace] ++ textFieldTokens "path" ++
    textFieldTokens "http_method" ++ handlerFieldTokens t ++ [.closing .brace]

/-- The table up to its entries. -/
def tableHead : List Token := [
  word "pub", word "static", word "HANDLERS", .mark ':' false, .mark '&' false, .opening .bracket,
  word "Handler", .closing .bracket, .mark '=' false, .mark '&' false, .opening .bracket]

/-- The table behind its entries. -/
def tableEnd : List Token :=
  [.closing .bracket, .mark ';' false]

/-- The entry of a handler. -/
def entryTokens (d : Descriptor) (comma : Bool) : List Token :=
  [word "Handler", .opening .brace,
    word "path", .mark ':' false, .literal (.quoted d.path.toList), .mark ',' false,
    word "http_method", .mark ':' false, .literal (.quoted d.httpMethod.toList), .mark ',' false,
    word "handler", .mark ':' false, .mark '&' false, .name (typeOf d), .opening .brace,
    .closing .brace] ++ commaIf comma ++ [.closing .brace]

/-- The assertions up to the first one. -/
def assertionsHead (t : Name) (comma : Bool) : List Token :=
  [word "const", word "_", .mark ':' false, word "fn", .opening .paren, .closing .paren,
    .mark '=' false, .mark '|' true, .mark '|' false, .opening .brace,
    word "fn", word "assert_handler", .mark '<' false, word "T", .mark ':' false] ++
    boundTokens t ++ commaIf comma ++
    [.mark '>' false, .opening .paren, .closing .paren, .opening .brace, .closing .brace]

/-- The assertions behind the last one. -/
def assertionsEnd : List Token :=
  [.closing .brace, .mark ';' false]

/-- The assertion of a handler. -/
def assertionTokens (d : Descriptor) (comma : Bool) : List Token :=
  [word "assert_handler", .mark ':' true, .mark ':' true, .mark '<' false, .name (typeOf d)] ++
    commaIf comma ++ [.mark '>' false, .opening .paren, .closing .paren, .mark ';' false]

/-- The declaration of the type of a handler. -/
def declarationTokens (d : Descriptor) : List Token := [
  word "pub", word "struct", .name (typeOf d), .opening .brace, .closing .brace]

/-- The tokens of the **entries of a table**, between which commas have to stand. -/
inductive Entries : List Descriptor → List Token → Prop where
  | nil : Entries [] []
  | last {d : Descriptor} (inner outer : Bool) :
      Entries [d] (entryTokens d inner ++ commaIf outer)
  | cons {d e : Descriptor} {ds : List Descriptor} {ts : List Token} (inner : Bool) :
      Entries (e :: ds) ts → Entries (d :: e :: ds) (entryTokens d inner ++ .mark ',' false :: ts)

/-- The tokens of the **assertions**. -/
inductive Assertions : List Descriptor → List Token → Prop where
  | nil : Assertions [] []
  | cons {d : Descriptor} {ds : List Descriptor} {ts : List Token} (comma : Bool) :
      Assertions ds ts → Assertions (d :: ds) (assertionTokens d comma ++ ts)

/-- The **tokens that generated source may be cut into**. -/
inductive Tokens (p : TraitPath) (handlers : List Descriptor) : List Token → Prop where
  | mk {entries assertions : List Token} (comma : Bool) :
      Entries handlers entries → Assertions handlers assertions →
      Tokens p handlers (allowanceTokens ++ importTokens p ++ handlerTokens p.name ++
        (tableHead ++ entries ++ tableEnd) ++
        (assertionsHead p.name comma ++ assertions ++ assertionsEnd) ++
        handlers.flatMap declarationTokens)

/-- A list of one element, behind which a **comma may be left out**. -/
theorem lists_last {α : Type} {atEnd : List Token → Bool} {r : Reader α} {a : α}
    {ts rest : List Token} (comma : Bool) (hstart : atEnd ts = false) (hend : atEnd rest = true)
    (hcomma : atEnd (.mark ',' false :: rest) = false)
    (h : r ts = some (a, commaIf comma ++ rest)) (hshort : rest.length < ts.length) :
    Lists atEnd r ts [a] rest := by
  cases comma with
  | false => exact .last hstart h hend
  | true => exact .cons hstart h hcomma hshort (.nil hend)

/-! ### The import -/

/-- A step of a path may stand in an import. -/
theorem startsImported_of_isStep {n : Name} (h : isStep n = true) (ts : List Token) :
    startsImported (.name n :: ts) = true := by
  rw [isStep, Bool.and_eq_true, Bool.or_eq_true] at h
  rw [startsImported, Bool.or_eq_true]
  rcases h.2 with h | h
  · exact .inl h
  · refine .inr ?_
    simp only [List.any_cons, List.any_nil, Bool.or_false, Bool.or_eq_true, pathWords] at h ⊢
    rcases h with h | h | h
    · exact .inr (.inr (.inl h))
    · exact .inr (.inl h)
    · exact .inl h

/-- An identifier may stand at the end of a path. -/
theorem isIdentifier_inv {n : Name} (h : isIdentifier n = true) :
    n.isSpelled = true ∧ n.isIdentifier = true :=
  Bool.and_eq_true_iff.1 h

/-- The **path of an import** is read, one name at a level. -/
theorem useTreeWithin_run {steps : List Name} {name : Name} (hsteps : steps.all isStep = true)
    (hname : isIdentifier name = true) (ts : List Token) :
    ∀ {n : Nat}, steps.length < n →
      useTreeWithin n (pathTokens steps name ++ .mark ';' false :: ts) =
        some (importTree steps name, .mark ';' false :: ts) := by
  induction steps with
  | nil =>
      intro n hn
      cases n with
      | zero => omega
      | succ n =>
          have himported : startsImported (.name name :: .mark ';' false :: ts) = true := by
            rw [startsImported, (isIdentifier_inv hname).2, Bool.true_or]
          exact useTreeWithin_name himported rfl rfl
  | cons step steps ih =>
      intro n hn
      rw [List.all_cons, Bool.and_eq_true] at hsteps
      cases n with
      | zero => omega
      | succ n =>
          have hrest := ih hsteps.2 (n := n) (Nat.lt_of_succ_lt_succ hn)
          exact useTreeWithin_path (startsImported_of_isStep hsteps.1) hrest

/-- A path begins with a name. -/
theorem startsMarks_pathTokens (steps : List Name) (name : Name) (ts : List Token) :
    startsMarks "::" (pathTokens steps name ++ ts) = false := by
  cases steps <;> rfl

/-- A path has more tokens than names. -/
theorem length_pathTokens (steps : List Name) (name : Name) :
    steps.length < (pathTokens steps name).length := by
  induction steps with
  | nil => exact Nat.one_pos
  | cons step steps ih =>
      simp only [pathTokens, List.flatMap_cons, List.length_append, List.length_cons] at ih ⊢
      omega

/-- The **import** is read. -/
theorem importItem_run (p : TraitPath) (n : Nat) (rest : List Token) :
    itemWithin (n + 1) (importTokens p ++ rest) = some (importItem p, rest) := by
  have htokens : importTokens p ++ rest =
      word "use" :: (pathTokens p.steps p.name ++ .mark ';' false :: rest) := by
    rw [importTokens, List.append_assoc, List.singleton_append, List.cons_append]
  have htree : useTree (pathTokens p.steps p.name ++ .mark ';' false :: rest) =
      some (importTree p.steps p.name, .mark ';' false :: rest) := by
    apply useTreeWithin_run p.areSteps p.isNamed
    have := length_pathTokens p.steps p.name
    rw [List.length_append]
    omega
  have huse : useItem (word "use" :: (pathTokens p.steps p.name ++ .mark ';' false :: rest)) =
      some (.use false (importTree p.steps p.name), rest) := by
    rw [useItem]
    refine (run_bind word_run).trans ?_
    refine (run_bind (optionalMarks_run (startsMarks_pathTokens _ _ _))).trans ?_
    refine (run_bind htree).trans ?_
    rfl
  rw [htokens, itemWithin]
  exact itemOf_run rfl rfl (itemKind_run (by simp) rfl huse)

/-! ### The type of the entries -/

/-- The bounds of handlers in a list of traits. -/
theorem object_run {t : Name} (h : isIdentifier t = true) (type : Reader TypeTerm)
    (ts : List Token) :
    object true type (word "dyn" :: (boundTokens t ++ .closing .paren :: ts)) =
      some (.object (bounds t), .closing .paren :: ts) := by
  rw [object]
  refine (run_bind word_run).trans ?_
  refine (run_bind (bound_run (isIdentifier_inv h).2 rfl)).trans ?_
  rfl

/-- The type of the field that is a handler. -/
theorem handlerType_run {t : Name} (h : isIdentifier t = true) (ts : List Token) :
    typeTerm (.mark '&' true :: .lifetime (.ofString "static") :: .opening .paren :: word "dyn" ::
        (boundTokens t ++ .closing .paren :: ts)) =
      some (lasting (.enclosed (.object (bounds t))), ts) := by
  have hobject (n : Nat) (ts : List Token) : typeWithin (n + 1) true (word "dyn" :: ts) =
      object true (typeWithin n true) (word "dyn" :: ts) := by
    rw [typeWithin]
    rfl
  have hinside (n : Nat) : typeWithin (n + 1) true
      (word "dyn" :: (boundTokens t ++ .closing .paren :: ts)) =
        some (.object (bounds t), .closing .paren :: ts) := by
    rw [hobject, object_run h]
  have htuple (n : Nat) : typeWithin (n + 2) false (.opening .paren :: word "dyn" ::
      (boundTokens t ++ .closing .paren :: ts)) =
        some (.enclosed (.object (bounds t)), ts) := by
    rw [typeWithin_paren, tuple]
    apply within_run
    refine (run_ahead _ _ _).trans ?_
    refine (run_bind (hinside n)).trans ?_
    rfl
  rw [typeTerm_eq, typeWithin_reference]
  exact reference_run rfl (htuple _)

/-- A field of the entries that is a text. -/
theorem textField_run {name : String} (h : (Name.ofString name).isIdentifier = true)
    (ts : List Token) :
    namedField (textFieldTokens name ++ ts) =
      some (field name (lasting (.path (pathOf "str"))), .mark ',' false :: ts) := by
  have hname : newName (word name :: (textFieldTokens name).drop 2 ++ ts) =
      some (.ofString name, (textFieldTokens name).drop 2 ++ ts) := by
    rw [newName, List.cons_append, word, run_ahead, startsWord_eq_false h rfl,
      if_neg Bool.false_ne_true, identifier_run h]
  rw [namedField]
  refine (run_bind (many_run rfl)).trans ?_
  refine (run_bind (show visibility _ = some (.everyone, _) from rfl)).trans ?_
  refine (run_bind hname).trans ?_
  rfl

/-- The field of the entries that is a handler. -/
theorem handlerField_run {t : Name} (h : isIdentifier t = true) (ts : List Token) :
    namedField (handlerFieldTokens t ++ .closing .brace :: ts) =
      some (field "handler" (lasting (.enclosed (.object (bounds t)))),
        .mark ',' false :: .closing .brace :: ts) := by
  rw [namedField]
  refine (run_bind (many_run rfl)).trans ?_
  refine (run_bind (show visibility _ = some (.everyone, _) from rfl)).trans ?_
  refine (run_bind (show newName _ = some (.ofString "handler", _) from rfl)).trans ?_
  refine (run_bind (marks_run rfl)).trans ?_
  refine (run_bind (handlerType_run h _)).trans ?_
  rfl

/-- The fields of the entries are read. -/
theorem fields_run {t : Name} (h : isIdentifier t = true) (rest : List Token) :
    listWithin .brace namedField (.opening .brace :: (textFieldTokens "path" ++
      (textFieldTokens "http_method" ++ (handlerFieldTokens t ++ .closing .brace :: rest)))) =
        some (fields t, rest) := by
  apply Lists.listWithin_run
  refine .cons rfl (textField_run rfl _) rfl (length_lt_append (Nat.succ_pos _)) ?_
  refine .cons rfl (textField_run rfl _) rfl (length_lt_append (Nat.succ_pos _)) ?_
  exact .cons rfl (handlerField_run h _) rfl (length_lt_append (Nat.succ_pos _)) (.nil rfl)

/-- The declaration of the **type of the entries** is read. -/
theorem handlerItem_run {t : Name} (h : isIdentifier t = true) (n : Nat) (rest : List Token) :
    itemWithin (n + 1) (handlerTokens t ++ rest) = some (handlerItem t, rest) := by
  have htokens : handlerTokens t ++ rest =
      word "pub" :: word "struct" :: word "Handler" :: .opening .brace ::
        (textFieldTokens "path" ++ (textFieldTokens "http_method" ++
          (handlerFieldTokens t ++ .closing .brace :: rest))) := by
    simp only [handlerTokens, List.append_assoc, List.cons_append, List.nil_append]
  have hrecord : recordItem (word "struct" :: word "Handler" :: .opening .brace ::
      (textFieldTokens "path" ++ (textFieldTokens "http_method" ++
        (handlerFieldTokens t ++ .closing .brace :: rest)))) =
      some (.record (.ofString "Handler") {} (.named (fields t)), rest) := by
    rw [recordItem]
    refine (run_bind word_run).trans ?_
    refine (run_bind (identifier_run rfl)).trans ?_
    refine (run_bind (show genericParameters _ = some ([], _) from rfl)).trans ?_
    refine (run_bind (?_ : _ = some (([], Fields.named (fields t)), rest))).trans rfl
    rw [recordFields]
    refine (run_ahead _ _ _).trans ?_
    refine (run_bind (show conditions _ = some ([], _) from rfl)).trans ?_
    refine (run_ahead _ _ _).trans ?_
    refine (run_bind (fields_run h rest)).trans ?_
    rfl
  rw [htokens, itemWithin]
  exact itemOf_run rfl rfl (itemKind_run (by simp) rfl hrecord)

/-! ### The table -/

/-- The value of the type of a handler. -/
theorem handlerValue_run {d : Descriptor} (h : isIdentifier (typeOf d) = true) (n : Nat)
    (inner : Bool) (ts : List Token) :
    expression (operandWithin (n + 2)) (.mark '&' false :: .name (typeOf d) ::
        .opening .brace :: .closing .brace :: (commaIf inner ++ .closing .brace :: ts)) =
      some (.reference false (.record (.ofName (typeOf d)) []),
        commaIf inner ++ .closing .brace :: ts) := by
  have hname := (isIdentifier_inv h).2
  have hrecord : atom (expression (operandWithin n))
      (statement (expression (operandWithin n)) (itemWithin n))
      (.name (typeOf d) :: .opening .brace :: .closing .brace ::
        (commaIf inner ++ .closing .brace :: ts)) =
      some (.record (.ofName (typeOf d)) [], commaIf inner ++ .closing .brace :: ts) := by
    rw [atom_name hname]
    exact pathOrRecord_run hname (Lists.nil rfl).listWithin_run
  refine expression_run (operandWithin_reference (optionalWord_run hname (by rfl))
    (operandWithin_atom rfl rfl hrecord (calls_run ?_))) ?_
  · cases inner <;> rfl
  · cases inner <;> rfl

/-- The members of an entry. -/
theorem members_run {d : Descriptor} (h : isIdentifier (typeOf d) = true) (n : Nat) (inner : Bool)
    (ts : List Token) :
    listWithin .brace (member (expression (operandWithin (n + 2))))
        (.opening .brace :: ((entryTokens d inner).drop 2 ++ ts)) =
      some ([
        .full (.ofString "path") (.literal (.quoted d.path.toList)),
        .full (.ofString "http_method") (.literal (.quoted d.httpMethod.toList)),
        .full (.ofString "handler") (.reference false (.record (.ofName (typeOf d)) []))], ts) := by
  have hliteral (l : Literal) (more : List Token) :
      expression (operandWithin (n + 2)) (.literal l :: .mark ',' false :: more) =
        some (.literal l, .mark ',' false :: more) :=
    expression_literal rfl rfl
  have htokens : (entryTokens d inner).drop 2 ++ ts =
      word "path" :: .mark ':' false :: .literal (.quoted d.path.toList) :: .mark ',' false ::
      word "http_method" :: .mark ':' false :: .literal (.quoted d.httpMethod.toList) ::
      .mark ',' false :: word "handler" :: .mark ':' false :: .mark '&' false ::
      .name (typeOf d) :: .opening .brace :: .closing .brace ::
        (commaIf inner ++ .closing .brace :: ts) := by
    simp only [entryTokens, List.append_assoc, List.cons_append, List.nil_append, List.drop]
  rw [htokens]
  apply Lists.listWithin_run
  refine .cons rfl (member_run rfl (hliteral _ _)) rfl ?_ ?_
  · simp only [List.length_cons]
    omega
  refine .cons rfl (member_run rfl (hliteral _ _)) rfl ?_ ?_
  · simp only [List.length_cons]
    omega
  refine lists_last inner rfl rfl rfl (member_run rfl (handlerValue_run h n inner ts)) ?_
  simp only [List.length_cons, List.length_append]
  omega

/-- The **entry of a handler** is read. -/
theorem entry_run {d : Descriptor} (h : isIdentifier (typeOf d) = true) (n : Nat) (inner : Bool)
    (ts : List Token) (hcall : startsOpening .paren ts = false) (hend : operator? ts = none) :
    expression (operandWithin (n + 3)) (entryTokens d inner ++ ts) = some (entryTree d, ts) := by
  refine expression_run (operandWithin_atom rfl rfl ?_ (calls_run hcall)) hend
  exact (atom_name rfl).trans (pathOrRecord_run rfl (members_run h n inner ts))

/-- The **entries of a table** are read, whether a comma follows the last one or not. -/
theorem entries_lists {ds : List Descriptor} {entries : List Token} (h : Entries ds entries)
    (hds : ∀ d ∈ ds, isIdentifier (typeOf d) = true) (n : Nat) (rest : List Token) :
    Lists startsClosing (expression (operandWithin (n + 3))) (entries ++ .closing .bracket :: rest)
      (ds.map entryTree) (.closing .bracket :: rest) := by
  induction h with
  | nil =>
      exact .nil rfl
  | @last d inner outer =>
      have hrun := entry_run (hds d List.mem_cons_self) n inner
        (commaIf outer ++ .closing .bracket :: rest)
        (by cases outer <;> rfl) (by cases outer <;> rfl)
      rw [List.append_assoc]
      refine lists_last outer rfl rfl rfl hrun ?_
      simp only [entryTokens, List.length_cons, List.length_append]
      omega
  | @cons d e ds ts inner hmore ih =>
      have hrun := entry_run (hds d List.mem_cons_self) n inner
        (.mark ',' false :: (ts ++ .closing .bracket :: rest)) rfl rfl
      rw [List.append_assoc, List.cons_append]
      refine .cons rfl hrun rfl ?_ (ih fun d hd => hds d (List.mem_cons_of_mem _ hd))
      simp only [entryTokens, List.length_cons, List.length_append]
      omega

/-- The **table** is read. -/
theorem tableItem_run {ds : List Descriptor} {entries : List Token} (h : Entries ds entries)
    (hds : ∀ d ∈ ds, isIdentifier (typeOf d) = true) (n : Nat) (rest : List Token) :
    itemWithin (n + 6) (tableHead ++ entries ++ tableEnd ++ rest) = some (tableItem ds, rest) := by
  have htokens : tableHead ++ entries ++ tableEnd ++ rest = word "pub" :: word "static" ::
      word "HANDLERS" :: .mark ':' false :: .mark '&' false :: .opening .bracket ::
      word "Handler" :: .closing .bracket :: .mark '=' false :: .mark '&' false ::
      .opening .bracket :: (entries ++ .closing .bracket :: .mark ';' false :: rest) := by
    simp only [tableHead, tableEnd, List.append_assoc, List.cons_append, List.nil_append]
  have harray : expression (operandWithin (n + 5)) (.mark '&' false :: .opening .bracket ::
      (entries ++ .closing .bracket :: .mark ';' false :: rest)) =
      some (.reference false (.array (ds.map entryTree)), .mark ';' false :: rest) := by
    refine expression_run (operandWithin_reference rfl
      (operandWithin_atom rfl rfl ?_ (calls_run rfl))) rfl
    exact (entries_lists h hds n (.mark ';' false :: rest)).array_run
  have hstatic : staticItem (expression (operandWithin (n + 5))) (word "static" ::
      word "HANDLERS" :: .mark ':' false :: .mark '&' false :: .opening .bracket ::
      word "Handler" :: .closing .bracket :: .mark '=' false :: .mark '&' false ::
      .opening .bracket :: (entries ++ .closing .bracket :: .mark ';' false :: rest)) =
      some (.static false (.ofString "HANDLERS")
        (.reference none false (.slice (.path (pathOf "Handler"))))
        (.reference false (.array (ds.map entryTree))), rest) := by
    rw [staticItem]
    refine (run_bind word_run).trans ?_
    refine (run_bind (optionalWord_run rfl rfl)).trans ?_
    refine (run_bind (identifier_run rfl)).trans ?_
    refine (run_bind (?_ : _ = some ((.reference none false (.slice (.path (pathOf "Handler"))),
      .reference false (.array (ds.map entryTree))), rest))).trans rfl
    rw [typeAndValue]
    refine (run_bind (marks_run rfl)).trans ?_
    refine (run_bind (show typeTerm _ = some (_, _) from rfl)).trans ?_
    refine (run_bind (marks_run rfl)).trans ?_
    refine (run_bind harray).trans ?_
    rfl
  rw [htokens, itemWithin]
  exact itemOf_run rfl rfl (itemKind_run (by simp) rfl hstatic)

/-! ### The assertions -/

/-- The bounds of the parameter of the asserting function. -/
theorem boundsUntil_run {t : Name} (h : isIdentifier t = true) (comma : Bool) (ts : List Token) :
    boundsUntil endsBounds (bound typeTerm)
        (boundTokens t ++ (commaIf comma ++ .mark '>' false :: ts)) =
      some (bounds t, commaIf comma ++ .mark '>' false :: ts) := by
  have hgroup : Repeats (startsMarks "+") (do
      marks "+"
      if ← ahead endsBounds then return [] else return [← bound typeTerm])
      (.mark '+' false :: word "Sync" :: (commaIf comma ++ .mark '>' false :: ts))
      [[.trait false false (pathOf "Sync")]] (commaIf comma ++ .mark '>' false :: ts) := by
    refine .step rfl (?_ : _ = some (_, commaIf comma ++ .mark '>' false :: ts)) ?_ (.stop ?_)
    · cases comma <;> rfl
    · simp only [List.length_cons]
      omega
    · cases comma <;> rfl
  rw [boundsUntil]
  refine (run_ahead _ _ _).trans ?_
  refine (run_bind (bound_run (isIdentifier_inv h).2 rfl)).trans ?_
  refine (run_bind hgroup.many_run).trans ?_
  rfl

/-- The parameter of the asserting function. -/
theorem genericParameters_run {t : Name} (h : isIdentifier t = true) (comma : Bool)
    (ts : List Token) :
    genericParameters (.mark '<' false :: word "T" :: .mark ':' false ::
        (boundTokens t ++ (commaIf comma ++ .mark '>' false :: ts))) =
      some ([.type (.ofString "T") (bounds t) none], ts) := by
  have hparameter : genericParameter (word "T" :: .mark ':' false ::
      (boundTokens t ++ (commaIf comma ++ .mark '>' false :: ts))) =
      some (.type (.ofString "T") (bounds t) none, commaIf comma ++ .mark '>' false :: ts) := by
    rw [genericParameter]
    refine (run_get _ _).trans ?_
    refine (run_bind (identifier_run rfl)).trans ?_
    refine (run_bind (optionalMarks_present rfl)).trans ?_
    refine (run_bind (boundsUntil_run h comma ts)).trans ?_
    cases comma <;> rfl
  have hlist : Lists (startsMarks ">") genericParameter (word "T" :: .mark ':' false ::
      (boundTokens t ++ (commaIf comma ++ .mark '>' false :: ts)))
      [.type (.ofString "T") (bounds t) none] (.mark '>' false :: ts) := by
    refine lists_last comma rfl rfl rfl hparameter ?_
    simp only [List.length_cons, List.length_append]
    omega
  rw [genericParameters]
  refine (run_bind (optionalMarks_present rfl)).trans ?_
  refine (run_bind hlist.commaList_run).trans ?_
  rfl

/-- The tokens of the asserting function. -/
theorem assertingTokens (t : Name) (comma : Bool) (ts : List Token) :
    (assertionsHead t comma).drop 10 ++ ts = word "fn" :: word "assert_handler" ::
      .mark '<' false :: word "T" :: .mark ':' false :: (boundTokens t ++ (commaIf comma ++
        .mark '>' false :: .opening .paren :: .closing .paren :: .opening .brace ::
        .closing .brace :: ts)) := by
  simp only [assertionsHead, List.append_assoc, List.cons_append, List.nil_append, List.drop]

/-- The head of the asserting function. -/
theorem signature_run {t : Name} (h : isIdentifier t = true) (comma : Bool) (ts : List Token) :
    signature ((assertionsHead t comma).drop 10 ++ ts) =
      some ({
        qualifiers := []
        name := .ofString "assert_handler"
        generics := { parameters := [.type (.ofString "T") (bounds t) none] }
        parameters := []
        result := none }, .opening .brace :: .closing .brace :: ts) := by
  rw [assertingTokens, signature]
  refine (run_bind (show qualifiers qualifierWords _ = some ([], _) from rfl)).trans ?_
  refine (run_bind word_run).trans ?_
  refine (run_bind (identifier_run rfl)).trans ?_
  refine (run_bind (genericParameters_run h comma _)).trans ?_
  refine (run_bind (Lists.nil rfl).listWithin_run).trans ?_
  rfl

/-- The **asserting function** is read. -/
theorem assertingItem_run {t : Name} (h : isIdentifier t = true) (comma : Bool) (n : Nat)
    (ts : List Token) :
    itemWithin (n + 1) ((assertionsHead t comma).drop 10 ++ ts) = some (assertingItem t, ts) := by
  have hfunction (s : Reader Statement) : functionItem s ((assertionsHead t comma).drop 10 ++ ts) =
      some (([], .function {
        qualifiers := []
        name := .ofString "assert_handler"
        generics := { parameters := [.type (.ofString "T") (bounds t) none] }
        parameters := []
        result := none } []), ts) := by
    rw [functionItem]
    refine (run_bind (signature_run h comma ts)).trans ?_
    apply within_run
    refine (run_bind (many_run rfl)).trans ?_
    refine (run_bind (many_run rfl)).trans ?_
    rfl
  rw [assertingTokens] at hfunction ⊢
  rw [itemWithin]
  exact itemOf_run rfl rfl (hfunction _)

/-- The type at which the asserting function is called. -/
theorem arguments_run {n : Name} (h : isIdentifier n = true) (comma : Bool) (ts : List Token) :
    arguments typeTerm (.mark ':' true :: .mark ':' true :: .mark '<' false :: .name n ::
        (commaIf comma ++ .mark '>' false :: ts)) =
      some ([.type (.path (.ofName n))], ts) := by
  have hargument (more : List Token) (hend : endsPath false more = true)
      (hplus : startsMarks "+" more = false) :
      argument typeTerm (.name n :: more) = some (.type (.path (.ofName n)), more) := by
    change (typeTerm >>= fun t => pure (.type t) : Reader Argument) _ = _
    refine (run_bind (typeTerm_run (isIdentifier_inv h).2 hend hplus)).trans ?_
    rfl
  have hlist : Lists (startsMarks ">") (argument typeTerm)
      (.name n :: (commaIf comma ++ .mark '>' false :: ts))
      [.type (.path (.ofName n))] (.mark '>' false :: ts) := by
    refine lists_last comma rfl rfl rfl (hargument _ ?_ ?_) ?_
    · cases comma <;> rfl
    · cases comma <;> rfl
    · simp only [List.length_cons, List.length_append]
      omega
  rw [arguments]
  refine (run_bind (optionalMarks_present rfl)).trans ?_
  refine (run_bind (marks_run rfl)).trans ?_
  refine (run_bind hlist.commaList_run).trans ?_
  rfl

/-- The path of the asserting function, at a type. -/
theorem assertingPath_run {n : Name} (h : isIdentifier n = true) (comma : Bool) {ts : List Token}
    (hend : startsSegment ts = false) :
    path true typeTerm (word "assert_handler" :: .mark ':' true :: .mark ':' true ::
        .mark '<' false :: .name n :: (commaIf comma ++ .mark '>' false :: ts)) =
      some (.mk false [.mk (.ofString "assert_handler") [.type (.path (.ofName n))]], ts) := by
  rw [path]
  refine (run_bind (optionalMarks_run rfl)).trans ?_
  refine (run_bind (?_ : _ = some (.mk (.ofString "assert_handler")
    [.type (.path (.ofName n))], ts))).trans ?_
  · rw [Reader.segment]
    refine (run_ahead _ _ _).trans ?_
    refine (run_ahead _ _ _).trans ?_
    refine (run_bind (identifier_run rfl)).trans ?_
    refine (run_ahead _ _ _).trans ?_
    refine (run_bind (arguments_run h comma ts)).trans ?_
    rfl
  · refine (run_bind (many_run hend)).trans ?_
    rfl

/-- The **assertion of a handler** is read. -/
theorem assertion_run {d : Descriptor} (h : isIdentifier (typeOf d) = true) (comma : Bool)
    (n : Nat) (i : Reader Item) (ts : List Token) :
    statement (expression (operandWithin (n + 1))) i (assertionTokens d comma ++ ts) =
      some (assertionTree d, ts) := by
  have htokens : assertionTokens d comma ++ ts = word "assert_handler" :: .mark ':' true ::
      .mark ':' true :: .mark '<' false :: .name (typeOf d) :: (commaIf comma ++
        .mark '>' false :: .opening .paren :: .closing .paren :: .mark ';' false :: ts) := by
    simp only [assertionTokens, List.append_assoc, List.cons_append, List.nil_append]
  rw [htokens]
  refine statement_expression rfl rfl rfl (expression_run (operandWithin_atom rfl rfl ?_
    (calls_once rfl)) rfl)
  refine (atom_name rfl).trans ?_
  rw [pathOrRecord]
  refine (run_bind (assertingPath_run h comma rfl)).trans ?_
  rfl

/-- The **assertions of all handlers** are read. -/
theorem assertions_repeat {ds : List Descriptor} {assertions : List Token}
    (h : Assertions ds assertions) (hds : ∀ d ∈ ds, isIdentifier (typeOf d) = true) (n : Nat)
    (i : Reader Item) (rest : List Token) :
    Repeats (!startsClosing ·) (statement (expression (operandWithin (n + 1))) i)
      (assertions ++ .closing .brace :: rest) (ds.map assertionTree) (.closing .brace :: rest) := by
  induction h with
  | nil =>
      exact .stop rfl
  | @cons d ds ts comma _ ih =>
      have hrun := assertion_run (hds d List.mem_cons_self) comma n i (ts ++ .closing .brace :: rest)
      rw [List.append_assoc]
      exact .step rfl hrun (length_lt_append (Nat.succ_pos _))
        (ih fun d hd => hds d (List.mem_cons_of_mem _ hd))

/-- The function without a name in which the assertions stand. -/
theorem assertingClosure_run {t : Name} {ds : List Descriptor} {assertions : List Token}
    (ht : isIdentifier t = true) (h : Assertions ds assertions)
    (hds : ∀ d ∈ ds, isIdentifier (typeOf d) = true) (comma : Bool) (n : Nat)
    (rest : List Token) :
    expression (operandWithin (n + 2)) (.mark '|' true :: .mark '|' false :: .opening .brace ::
        ((assertionsHead t comma).drop 10 ++
          (assertions ++ .closing .brace :: .mark ';' false :: rest))) =
      some (.closure [] (.declaration (assertingItem t) :: ds.map assertionTree),
        .mark ';' false :: rest) := by
  have hbody : Repeats (!startsClosing ·)
      (statement (expression (operandWithin (n + 1))) (itemWithin (n + 1)))
      ((assertionsHead t comma).drop 10 ++
        (assertions ++ .closing .brace :: .mark ';' false :: rest))
      (.declaration (assertingItem t) :: ds.map assertionTree)
      (.closing .brace :: .mark ';' false :: rest) := by
    refine .step rfl (statement_declaration rfl rfl rfl (assertingItem_run ht comma n _)) ?_
      (assertions_repeat h hds n _ _)
    exact length_lt_append (Nat.succ_pos _)
  refine expression_run (operandWithin_atom rfl rfl ?_ (calls_run rfl)) rfl
  rw [atom_closure, Reader.closure]
  refine (run_bind (marks_run rfl)).trans ?_
  refine (run_bind (Lists.nil rfl).commaList_run).trans ?_
  refine (run_bind (marks_run rfl)).trans ?_
  refine (run_bind (within_run hbody.many_run)).trans ?_
  rfl

/-- The **constant with the assertions** is read. -/
theorem assertionsItem_run {t : Name} {ds : List Descriptor} {assertions : List Token}
    (ht : isIdentifier t = true) (h : Assertions ds assertions)
    (hds : ∀ d ∈ ds, isIdentifier (typeOf d) = true) (comma : Bool) (n : Nat)
    (rest : List Token) :
    itemWithin (n + 3) (assertionsHead t comma ++ assertions ++ assertionsEnd ++ rest) =
      some (assertionsItem t ds, rest) := by
  have htokens : assertionsHead t comma ++ assertions ++ assertionsEnd ++ rest =
      word "const" :: word "_" :: .mark ':' false :: word "fn" :: .opening .paren ::
      .closing .paren :: .mark '=' false :: .mark '|' true :: .mark '|' false ::
      .opening .brace :: ((assertionsHead t comma).drop 10 ++
        (assertions ++ .closing .brace :: .mark ';' false :: rest)) := by
    simp only [assertionsHead, assertionsEnd, List.append_assoc, List.cons_append,
      List.nil_append, List.drop]
  have hconstant : constantItem (expression (operandWithin (n + 2))) (word "const" :: word "_" ::
      .mark ':' false :: word "fn" :: .opening .paren :: .closing .paren :: .mark '=' false ::
      .mark '|' true :: .mark '|' false :: .opening .brace ::
      ((assertionsHead t comma).drop 10 ++
        (assertions ++ .closing .brace :: .mark ';' false :: rest))) =
      some (.constant (.ofString "_") (.procedure [])
        (.closure [] (.declaration (assertingItem t) :: ds.map assertionTree)), rest) := by
    rw [constantItem]
    refine (run_bind word_run).trans ?_
    refine (run_bind (show newName _ = some (.ofString "_", _) from rfl)).trans ?_
    refine (run_bind (?_ : _ = some ((.procedure [],
      .closure [] (.declaration (assertingItem t) :: ds.map assertionTree)), rest))).trans rfl
    rw [typeAndValue]
    refine (run_bind (marks_run rfl)).trans ?_
    refine (run_bind (show typeTerm _ = some (.procedure [], _) from rfl)).trans ?_
    refine (run_bind (marks_run rfl)).trans ?_
    refine (run_bind (assertingClosure_run ht h hds comma n rest)).trans ?_
    rfl
  rw [htokens, itemWithin]
  exact itemOf_run rfl rfl (itemKind_run (by simp) rfl hconstant)

/-! ### The file -/

/-- The **declaration of the type of a handler** is read. -/
theorem declarationItem_run {d : Descriptor} (h : isIdentifier (typeOf d) = true) (n : Nat)
    (rest : List Token) :
    itemWithin (n + 1) (declarationTokens d ++ rest) = some (declarationItem d, rest) := by
  have hrecord : recordItem (word "struct" :: .name (typeOf d) :: .opening .brace ::
      .closing .brace :: rest) = some (.record (typeOf d) {} (.named []), rest) := by
    rw [recordItem]
    refine (run_bind word_run).trans ?_
    refine (run_bind (identifier_run (isIdentifier_inv h).2)).trans ?_
    refine (run_bind (show genericParameters _ = some ([], _) from rfl)).trans ?_
    refine (run_bind (show recordFields _ = some (([], .named []), rest) from rfl)).trans ?_
    rfl
  rw [itemWithin]
  exact itemOf_run rfl rfl (itemKind_run (by simp) rfl hrecord)

/-- The declarations of all types are read to the end. -/
theorem declarations_repeat {ds : List Descriptor}
    (hds : ∀ d ∈ ds, isIdentifier (typeOf d) = true) (n : Nat) :
    Repeats (!List.isEmpty ·) (itemWithin (n + 1)) (ds.flatMap declarationTokens)
      (ds.map declarationItem) [] := by
  induction ds with
  | nil =>
      exact .stop rfl
  | cons d ds ih =>
      rw [List.flatMap_cons]
      exact .step rfl (declarationItem_run (hds d List.mem_cons_self) n _)
        (length_lt_append (Nat.succ_pos _)) (ih fun d hd => hds d (List.mem_cons_of_mem _ hd))

/-- A step of the reader of declarations. -/
theorem repeats_item {r : Reader Item} {item : Item} {items : List Item} {front ts : List Token}
    (h : r (front ++ ts) = some (item, ts)) (hts : Repeats (!List.isEmpty ·) r ts items [])
    (hfront : 0 < front.length) :
    Repeats (!List.isEmpty ·) r (front ++ ts) (item :: items) [] := by
  refine .step ?_ h (length_lt_append hfront) hts
  cases front with
  | nil => cases hfront
  | cons t front => rfl

/-- **All tokens of generated source give its tree**. -/
theorem Tokens.ofTokens?_eq_some {p : TraitPath} {handlers : List Descriptor} {ts : List Token}
    (h : Tokens p handlers ts) (hds : ∀ d ∈ handlers, isIdentifier (typeOf d) = true) :
    File.ofTokens? none ts = some (tree p handlers) := by
  obtain ⟨comma, hentries, hassertions⟩ := h
  simp only [List.append_assoc]
  generalize hts : importTokens p ++ (handlerTokens p.name ++ _) = ts
  have hitems (n : Nat) :
      Repeats (!List.isEmpty ·) (itemWithin (n + 6)) ts (tree p handlers).items [] := by
    rw [← hts]
    refine repeats_item (importItem_run p _ _) ?_ (Nat.succ_pos _)
    refine repeats_item (handlerItem_run p.isNamed _ _) ?_ (Nat.succ_pos _)
    have hassertion := repeats_item
      (assertionsItem_run p.isNamed hassertions hds comma (n + 3) _)
      (declarations_repeat hds (n + 5)) (Nat.succ_pos _)
    have htable := repeats_item (tableItem_run hentries hds n _) hassertion (Nat.succ_pos _)
    simp only [List.append_assoc] at htable
    exact htable
  have hlength : 5 ≤ ts.length := by
    have hhandler : (handlerTokens p.name).length = 31 := rfl
    rw [← hts, List.length_append, List.length_append, hhandler]
    omega
  obtain ⟨n, hn⟩ := Nat.exists_eq_add_of_le' hlength
  have hall : items ts = some ((tree p handlers).items, []) := by
    have hmany := (hitems n).many_run
    rw [items, run_get, hn]
    exact hmany
  have hattributes : innerAttributes (allowanceTokens ++ ts) = some ([allowance], ts) := by
    rw [← hts]
    rfl
  have hfile : Reader.file none (allowanceTokens ++ ts) = some (tree p handlers, []) := by
    rw [Reader.file]
    refine (run_bind hattributes).trans ?_
    refine (run_bind hall).trans ?_
    rfl
  rw [File.ofTokens?, hfile]

end Scaffold.Emit
