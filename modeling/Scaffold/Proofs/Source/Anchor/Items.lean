import Scaffold.Proofs.Source.Anchor.Types

/-!
# Anchors of expressions and declarations

Expressions and declarations are anchored, by the induction on the depth by which they are read.
An expression does not end in a colon, so that no operator behind one stands behind a colon.

## Main results

* `anchored_items` - all tokens of declarations are anchored.
-/

set_option synthInstance.maxSize 1000

namespace Scaffold.Source.Reader

variable {ts rest : List Token}

/-! ### Attributes and visibility -/

instance (inner : Bool) : Keeps (oneAttribute inner) where
  heeds ts hhash a rest h := by
    obtain ⟨⟨_, more⟩, hmarks, -⟩ := Option.bind_eq_some_iff.1 h
    obtain ⟨_, hafter, -⟩ := Option.map_eq_some_iff.1 hmarks
    obtain ⟨joint, _, rfl, -⟩ := afterMarks?_cons_inv hafter
    exact absurd List.mem_cons_self (hhash joint)

instance : Keeps outerAttributes := by
  unfold outerAttributes
  infer_instance

instance : Keeps innerAttributes := by
  unfold innerAttributes
  infer_instance

/-- An identifier, or one of some words, begins no record. -/
theorem startsWord_of_isIdentifier_or {n : Name} {words : List String}
    (h : (n.isIdentifier || words.any fun w => n.isWord w) = true) (hwords : "struct" ∉ words) :
    startsWord "struct" (.name n :: ts) = false := by
  rcases Bool.or_eq_true_iff.1 h with h | h
  · exact startsWord_eq_false h rfl
  · obtain ⟨w, hw, hword⟩ := List.any_eq_true.1 h
    exact isWord_eq_false hword fun heq => hwords (heq ▸ hw)

/-- A name that may stand in a path without arguments begins no record. -/
theorem startsWord_of_startsPlainName (ts : List Token) (h : startsPlainName ts = true) :
    startsWord "struct" ts = false := by
  unfold startsPlainName at h
  split at h
  · exact startsWord_of_isIdentifier_or h (by decide)
  · cases h

/-- Neither does a name that may stand in an import. -/
theorem startsWord_of_startsImported (ts : List Token) (h : startsImported ts = true) :
    startsWord "struct" ts = false := by
  unfold startsImported at h
  split at h
  · exact startsWord_of_isIdentifier_or h (by decide)
  · cases h

instance : Keeps plainPath := by
  have hname : Keeps (ahead startsPlainName >>= fun b => require b >>= fun _ => anyName) :=
    keeps_required startsWord_of_startsPlainName fun ts h => (heeds_anyName h).mono id nofun
  refine keeps_bind inferInstance fun rooted => ?_
  exact keeps_required startsWord_of_startsPlainName fun ts h => heeds_anyName_bind h

instance : Keeps scope := by
  refine keeps_bind inferInstance fun within => ?_
  split
  · infer_instance
  · exact keeps_required (fun ts h => startsWord_eq_false_of_notMem h (by decide))
      fun ts h => heeds_anyName_bind h

instance : Keeps visibility := by
  unfold visibility
  infer_instance

/-! ### Imports -/

instance : Closes newName where
  heeds := heeds_guarded (fun ts h => startsWord_eq_false_of_ne h (by decide))
    (fun ts h => heeds_anyName h) Closes.heeds

instance (n : Nat) : Keeps (useTreeWithin n) := by
  induction n with
  | zero => exact ⟨fun _ _ _ _ h => nomatch h⟩
  | succ n ih =>
    have hgroup : Keeps (listWithin .brace (useTreeWithin n) >>= fun trees =>
      pure (UseTree.group trees)) := inferInstance
    have hall : Keeps (marks "*" >>= fun _ => pure UseTree.all) := inferInstance
    refine ⟨fun ts => ?_⟩
    unfold useTreeWithin
    change Heeds true true (if _ then _ else if _ then _ else _) ts
    split
    · exact hgroup.heeds ts
    split
    · exact hall.heeds ts
    exact heeds_required fun h => heeds_anyName_bind (startsWord_of_startsImported ts h)

instance : Keeps useTree := by
  unfold useTree
  infer_instance

/-! ### Expressions -/

/-- The operators between expressions have no colons. -/
theorem isSafe_of_mem_operators {o : String × Nat} (h : o ∈ operators) :
    isSafe false o.1.toList = true ∧
      o.1.toList.foldl (fun _ c => decide (c = ':')) false = false := by
  revert o
  decide

instance (operand : Reader Expr) [Closes operand] (n : Nat) (e : Expr) :
    Stays (operations n operand e) := by
  induction n generalizing e with
  | zero => exact ⟨heeds_pure false e⟩
  | succ n ih =>
    refine ⟨fun ts => ?_⟩
    unfold operations
    change Heeds false false (match operator? ts with | none => _ | some o => _) ts
    cases hoperator : operator? ts with
    | none => exact heeds_pure false e ts
    | some o =>
      obtain ⟨o, hfind, rfl⟩ := Option.map_eq_some_iff.1 hoperator
      obtain ⟨hsafe, hend⟩ := isSafe_of_mem_operators (List.mem_of_find?_eq_some hfind)
      refine ((heeds_marks hsafe ts).mono id fun h => hend.symm.trans h).bind fun _ rest _ => ?_
      have hoperand : Heeds false false operand rest := Stays.heeds rest
      exact hoperand.bind fun r more _ => Stays.heeds more

section

variable {e : Reader Expr} [Keeps e] {statement : Reader Statement} [Keeps statement]
  {item : Reader Item} [Keeps item]

instance {operand : Reader Expr} [Closes operand] : Closes (expression operand) := by
  unfold expression
  infer_instance

instance : Closes (parenthesized e) := by
  unfold parenthesized
  infer_instance

instance : Closes (array e) := by
  unfold array
  infer_instance

instance : Keeps (member e) := by
  unfold member
  infer_instance

instance : Keeps pattern := by
  unfold pattern
  infer_instance

instance : Closes (block statement) := by
  unfold block
  infer_instance

instance : Closes (closure statement) := by
  unfold closure
  infer_instance

instance : Closes (pathOrRecord e) := by
  have hpath := closes_path readsTypes_typeTerm true
  unfold pathOrRecord
  infer_instance

instance : Closes (atom e statement) where
  heeds ts := by
    unfold atom
    change Heeds true false (match ts with | .literal _ :: _ => _ | ts => _) ts
    split
    · exact Closes.heeds _
    split
    · next h => exact heeds_anyName_stays (startsWord_eq_false_of_notMem h (by decide))
    · exact Closes.heeds _

instance (function : Expr) : Stays (calls e function) := by
  unfold calls
  infer_instance

/-! ### Statements -/

instance : Keeps (binding e) := by
  unfold binding
  dsimp only
  infer_instance

instance : Keeps (Reader.statement e item) := by
  unfold Reader.statement
  infer_instance

/-! ### Declarations of data -/

instance : Keeps namedField := by
  unfold namedField
  infer_instance

instance : Keeps positionalField := by
  unfold positionalField
  infer_instance

instance : Keeps variantFields := by
  unfold variantFields
  infer_instance

instance : Keeps variant := by
  unfold variant
  dsimp only
  infer_instance

instance : Keeps recordFields := by
  unfold recordFields
  infer_instance

/-- A record is anchored at its first word, since it is **read as a record** there. -/
theorem keeps_recordItem {f : Unit → Reader ItemKind} [hf : ∀ u, Keeps (f u)]
    (heq : recordItem = word "struct" >>= f) : Keeps recordItem where
  heeds ts hhash a rest h := by
    have hrecord := Option.isSome_of_eq_some h
    rw [heq] at h
    obtain ⟨⟨u, more⟩, hword, hrun⟩ := Option.bind_eq_some_iff.1 h
    rcases ts with _ | ⟨t, ts⟩
    · cases hword
    obtain ⟨_, htest, htail⟩ := Option.map_eq_some_iff.1 hword
    cases htail
    have hmorehash : ∀ joint, .mark '#' joint ∉ more :=
      fun joint hmem => hhash joint (List.mem_cons_of_mem t hmem)
    obtain ⟨front, rfl, hfront, -⟩ := (hf u).heeds more hmorehash hrun
    refine ⟨t :: front, rfl, ⟨⟨fun _ => hrecord, fun _ hangle => ?_⟩, hfront.mono fun _ => rfl⟩,
      fun _ => rfl⟩
    cases t with
    | name n => cases hangle
    | _ => cases htest

instance : Keeps recordItem :=
  keeps_recordItem rfl

instance : Keeps enumerationItem := by
  unfold enumerationItem
  infer_instance

/-! ### Other declarations -/

instance : Keeps useItem := by
  unfold useItem
  infer_instance

instance : Keeps libraryItem := by
  refine keeps_bind inferInstance fun _ => keeps_bind inferInstance fun _ => ⟨?_⟩
  dsimp only
  refine heeds_guarded (fun ts h => startsWord_eq_false_of_ne h (by decide))
    (fun ts h => heeds_anyName_bind h) Keeps.heeds

instance : Keeps (typeAndValue e) := by
  unfold typeAndValue
  infer_instance

instance : Keeps (constantItem e) := by
  unfold constantItem
  infer_instance

instance : Keeps (staticItem e) := by
  unfold staticItem
  infer_instance

instance : Keeps aliasItem := by
  unfold aliasItem
  infer_instance

instance : Keeps traitItem := by
  unfold traitItem
  dsimp only
  infer_instance

instance : Keeps implementationItem := by
  unfold implementationItem
  dsimp only
  infer_instance

instance : Keeps parameter := by
  unfold parameter
  infer_instance

/-- The words in front of a function are anchored. -/
theorem keeps_qualifiers {words : List String} (h : "struct" ∉ words) :
    Keeps (qualifiers words) := by
  induction words with
  | nil => exact ⟨heeds_pure true []⟩
  | cons w words ih =>
    rw [List.mem_cons, not_or] at h
    have hword := closes_word (w := w) (Ne.symm h.1)
    have hrest := ih h.2
    unfold qualifiers
    infer_instance

instance : Keeps signature := by
  have hqualifiers : Keeps (qualifiers qualifierWords) := keeps_qualifiers (by decide)
  unfold signature
  dsimp only
  infer_instance

instance : Keeps (functionItem statement) := by
  unfold functionItem
  infer_instance

instance : Keeps (moduleItem item) := by
  unfold moduleItem
  infer_instance

instance (v : Visibility) : Keeps (itemKind v e statement item) := by
  unfold itemKind
  infer_instance

instance : Keeps (itemOf e statement item) := by
  unfold itemOf
  infer_instance

end

/-- The operators in front of expressions have neither brackets nor colons. -/
theorem isSafe_of_mem_prefixOperators {o : Char} (h : o ∈ ['*', '!', '-']) :
    isSafe true o.toString.toList = true := by
  simp only [List.mem_cons, List.not_mem_nil, or_false] at h
  rcases h with rfl | rfl | rfl <;> rfl

/-- Operands and declarations **of any depth are anchored**. -/
theorem anchored_within (n : Nat) : Closes (operandWithin n) ∧ Keeps (itemWithin n) := by
  induction n with
  | zero => exact ⟨⟨fun _ _ _ _ h => nomatch h⟩, ⟨fun _ _ _ _ h => nomatch h⟩⟩
  | succ n ih =>
    obtain ⟨hoperand, hitem⟩ := ih
    refine ⟨⟨fun ts => ?_⟩, ?_⟩
    · unfold operandWithin
      change Heeds true false (if _ then _ else _) ts
      split
      · exact Closes.heeds ts
      · split
        · next o hoperator =>
          have hmem := List.mem_of_find?_eq_some hoperator
          have hmarks : Keeps (marks o.toString) :=
            keeps_marks (isSafe_of_mem_prefixOperators hmem)
          exact Closes.heeds ts
        · exact Closes.heeds ts
    · unfold itemWithin
      infer_instance

instance (n : Nat) : Keeps (itemWithin n) :=
  (anchored_within n).2

instance : Keeps items := by
  unfold items
  infer_instance

/-- **All tokens of declarations are anchored**, where there are no hashes. -/
theorem anchored_items {is : List Item} (h : items ts = some (is, []))
    (hhash : ∀ joint, .mark '#' joint ∉ ts) : Anchored true ts [] := by
  obtain ⟨front, hts, hfront, -⟩ := Keeps.heeds ts hhash h
  rw [List.append_nil] at hts
  rwa [hts]

end Scaffold.Source.Reader
