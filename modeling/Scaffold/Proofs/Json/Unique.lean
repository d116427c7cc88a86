import Scaffold.Proofs.Json.Reader

/-!
# A text has one value

The tokens of a value determine it, whatever follows them, and so do the bytes that spell the
tokens: a text spells one value at most. Its strings stand for one text at most. So what a reader
makes of a text is what it makes of the value that the text spells.

## Main results

* `Tree.eq_of_tokens_append` - values with the same tokens in front are the same.
* `Spelled.unique` - a text spells one value.
* `Means.unique` - a string stands for one text.
* `whole_tokens_eq_ok_iff_of_spelled` - reading a text whose value is known.
-/

namespace Scaffold.Json

open Scaffold.Json.Tree (memberTokens)

/-- Rows of tokens up to a closing token determine **what they are the rows of**, if each row
does, and none begins with the closing token. -/
theorem eq_of_rowsFrom {α : Type} {row : α → List Token} {close : Token} (hclose : close ≠ .comma)
    (hhead : ∀ x, ∃ k ks, row x = k :: ks ∧ k ≠ close) {xs ys : List α}
    (h : ∀ x ∈ xs, ∀ y rest rest', row x ++ rest = row y ++ rest' → x = y ∧ rest = rest')
    {first : Bool} {rest rest' : List Token}
    (heq : rowsFrom first (xs.map row) ++ close :: rest =
      rowsFrom first (ys.map row) ++ close :: rest') : xs = ys ∧ rest = rest' := by
  -- A row stands where the other rows are at their end.
  have hend : ∀ (x : α) (zs : List α) (first : Bool) (more more' : List Token),
      close :: more ≠ rowsFrom first ((x :: zs).map row) ++ more' := by
    intro x zs first more more' heq
    obtain ⟨k, ks, hk, hne⟩ := hhead x
    cases first with
    | true =>
        rw [List.map_cons, rowsFrom_true_cons, hk] at heq
        exact hne (List.cons.inj heq).1.symm
    | false =>
        rw [List.map_cons, rowsFrom_false_cons] at heq
        exact hclose (List.cons.inj heq).1
  induction xs generalizing ys first with
  | nil =>
      cases ys with
      | nil =>
          rw [List.map_nil, rowsFrom_nil] at heq
          exact ⟨rfl, (List.cons.inj heq).2⟩
      | cons y ys =>
          rw [List.map_nil, rowsFrom_nil] at heq
          exact absurd heq (hend y ys first _ _)
  | cons x xs ih =>
      obtain ⟨hx, hxs⟩ := List.forall_mem_cons.1 h
      cases ys with
      | nil =>
          rw [List.map_nil, rowsFrom_nil] at heq
          exact absurd heq.symm (hend x xs first _ _)
      | cons y ys =>
          have hrows : row x ++ (rowsFrom false (xs.map row) ++ close :: rest) =
              row y ++ (rowsFrom false (ys.map row) ++ close :: rest') := by
            cases first with
            | true =>
                rwa [List.map_cons, List.map_cons, rowsFrom_true_cons, rowsFrom_true_cons,
                  List.append_assoc, List.append_assoc] at heq
            | false =>
                rw [List.map_cons, List.map_cons, rowsFrom_false_cons, rowsFrom_false_cons,
                  List.cons_append, List.cons_append, List.append_assoc, List.append_assoc] at heq
                exact (List.cons.inj heq).2
          obtain ⟨rfl, hmore⟩ := hx y _ _ hrows
          obtain ⟨rfl, hrest⟩ := ih hxs hmore
          exact ⟨rfl, hrest⟩

/-- The tokens of a list determine its elements, if those of each element determine it. -/
theorem Tree.eq_of_tokens_list {es es' : List Tree} {rest rest' : List Token}
    (h : ∀ e ∈ es, ∀ e' rest rest', e.tokens ++ rest = e'.tokens ++ rest' → e = e' ∧ rest = rest')
    (heq : (Tree.list es).tokens ++ rest = (Tree.list es').tokens ++ rest') :
    es = es' ∧ rest = rest' := by
  rw [tokens_list, tokens_list, List.cons_append, List.cons_append, List.append_assoc,
    List.append_assoc] at heq
  have hhead : ∀ e : Tree, ∃ k ks, e.tokens = k :: ks ∧ k ≠ Token.closeList := fun e =>
    let ⟨k, ks, hk, hclose, _⟩ := e.exists_head
    ⟨k, ks, hk, hclose⟩
  have hrows : rowsFrom true (es.map tokens) ++ .closeList :: rest =
      rowsFrom true (es'.map tokens) ++ .closeList :: rest' := (List.cons.inj heq).2
  exact eq_of_rowsFrom (by nofun) hhead h hrows

/-- The tokens of an object determine its members, if those of each value determine it. -/
theorem Tree.eq_of_tokens_object {ms ms' : List (List Piece × Tree)} {rest rest' : List Token}
    (h : ∀ m ∈ ms, ∀ t rest rest', m.2.tokens ++ rest = t.tokens ++ rest' → m.2 = t ∧ rest = rest')
    (heq : (Tree.object ms).tokens ++ rest = (Tree.object ms').tokens ++ rest') :
    ms = ms' ∧ rest = rest' := by
  rw [tokens_object, tokens_object, List.cons_append, List.cons_append, List.append_assoc,
    List.append_assoc] at heq
  have hmember : ∀ m ∈ ms, ∀ m' rest rest',
      memberTokens m ++ rest = memberTokens m' ++ rest' → m = m' ∧ rest = rest' := by
    intro m hm m' rest rest' heq
    obtain ⟨hkey, hvalue⟩ := List.cons.inj heq
    obtain ⟨hvalue, hrest⟩ := h m hm _ _ _ (List.cons.inj hvalue).2
    exact ⟨Prod.ext (Token.string.inj hkey).1 hvalue, hrest⟩
  have hhead : ∀ m, ∃ k ks, memberTokens m = k :: ks ∧ k ≠ Token.closeObject :=
    fun m => ⟨_, _, rfl, nofun⟩
  have hrows : rowsFrom true (ms.map memberTokens) ++ .closeObject :: rest =
      rowsFrom true (ms'.map memberTokens) ++ .closeObject :: rest' := (List.cons.inj heq).2
  exact eq_of_rowsFrom (by nofun) hhead hmember hrows

/-- **Values with the same tokens are the same**, and so is what follows them. -/
theorem Tree.eq_of_tokens_append {t t' : Tree} {rest rest' : List Token}
    (h : t.tokens ++ rest = t'.tokens ++ rest') : t = t' ∧ rest = rest' := by
  -- Values of two kinds differ in their first tokens.
  induction t using Tree.induct generalizing t' rest rest' with
  | list es ih =>
      cases t' with
      | list es' =>
          obtain ⟨rfl, hrest⟩ := eq_of_tokens_list (fun e he e' rest rest' => ih e he) h
          exact ⟨rfl, hrest⟩
      | object ms' =>
          rw [tokens_list, tokens_object] at h
          cases h
      | _ =>
          rw [tokens_list] at h
          cases h
  | object ms ih =>
      cases t' with
      | object ms' =>
          obtain ⟨rfl, hrest⟩ := eq_of_tokens_object (fun m hm t rest rest' => ih m hm) h
          exact ⟨rfl, hrest⟩
      | list es' =>
          rw [tokens_object, tokens_list] at h
          cases h
      | _ =>
          rw [tokens_object] at h
          cases h
  | _ =>
      cases t' with
      | list es' =>
          rw [tokens_list] at h
          cases h
      | object ms' =>
          rw [tokens_object] at h
          cases h
      | _ => cases h <;> exact ⟨rfl, rfl⟩

/-- A text spells a value if its tokens are the value's. -/
theorem spelled_tree_iff {t : Tree} {bs : List UInt8} :
    Spelled t.tokens bs ↔ tokens bs = t.tokens := by
  constructor
  · intro h
    have hseparated := t.separated [] trivial nofun
    rw [List.append_nil] at hseparated
    exact tokens_eq_of_spelled h hseparated
  · intro h
    have hspelled : Spelled (tokens bs) bs := spelled_tokens (h ▸ t.isFaulty_eq_false)
    exact h ▸ hspelled

/-- A **text spells one value** at most. -/
theorem Spelled.unique {t t' : Tree} {bs : List UInt8} (h : Spelled t.tokens bs)
    (h' : Spelled t'.tokens bs) : t = t' := by
  have heq := (spelled_tree_iff.1 h).symm.trans (spelled_tree_iff.1 h')
  exact (@Tree.eq_of_tokens_append t t' [] [] (by rw [heq])).1

/-- A **string stands for one text** at most. -/
theorem Means.unique {ps : List Piece} {s s' : String} (h : Means ps s) (h' : Means ps s') :
    s = s' :=
  Except.ok.inj ((textOf_eq_ok_iff.2 ⟨rfl, h⟩).symm.trans (textOf_eq_ok_iff.2 ⟨rfl, h'⟩))

/-- Reading a whole text whose **value is known**: it succeeds exactly if the value has the
shape. -/
theorem whole_tokens_eq_ok_iff_of_spelled {α : Type} {r : Reader α} {R : Tree → α → Prop}
    (h : Reads r R) {t : Tree} {bs : List UInt8} (ht : Spelled t.tokens bs) {a : α} :
    whole r (tokens bs) = .ok a ↔ R t a := by
  rw [whole_tokens_eq_ok_iff h]
  constructor
  · rintro ⟨t', ht', ha⟩
    rwa [ht.unique ht']
  · exact fun ha => ⟨t, ht, ha⟩

end Scaffold.Json
