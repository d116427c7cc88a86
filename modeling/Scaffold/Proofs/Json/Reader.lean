import Mathlib.Data.List.Forall2
import Scaffold.Json.Reader
import Scaffold.Proofs.Json.Lexer
import Scaffold.Proofs.Json.Skip
import Scaffold.Proofs.Json.Text

/-!
# Readers accept their shapes

A reader `Reads` a shape, a relation between trees and what they are read as, when it succeeds
exactly on the tokens of a tree of that shape, gives what the tree is read as, and leaves the
tokens behind it. Each way of building a reader from others has its counterpart on shapes, and
one theorem says that the built reader reads the built shape.

## Main definitions

* `Reads` - a reader reads a shape.
* `IsText`, `IsBoolean`, `NullOr`, `IsList`, `IsMap` - the shapes.
* `Keyed` - the members of an object with the keys that they are read under.
* `Valued` - what keyed members are read as.
* `Folded` - what reading keyed members in turn makes of a state.

## Main results

* `reads_text`, `reads_boolean`, `reads_orNull`, `reads_optional`, `reads_listOf`, `reads_mapOf`.
* `elements_inv`, `elements_rows`, `members_eq_ok_iff` - the two loops.
* `whole_tokens_eq_ok_iff` - whole texts.
-/

namespace Scaffold.Json

open Scaffold.Json.Tree (memberTokens)

variable {α β σ : Type}

/-- A **reader reads a shape**: it succeeds exactly on the tokens of a tree of that shape. -/
def Reads (r : Reader α) (R : Tree → α → Prop) : Prop :=
  ∀ ts a rest, r ts = .ok (a, rest) ↔ ∃ t : Tree, ts = t.tokens ++ rest ∧ R t a

/-! ### The beginnings of values -/

/-- A value begins with a token that closes nothing. -/
theorem Tree.exists_head (t : Tree) :
    ∃ k ks, t.tokens = k :: ks ∧ k ≠ .closeList ∧ k ≠ .closeObject := by
  cases t with
  | null => exact ⟨_, _, rfl, nofun, nofun⟩
  | boolean b => exact ⟨_, _, rfl, nofun, nofun⟩
  | number n => exact ⟨_, _, rfl, nofun, nofun⟩
  | text content => exact ⟨_, _, rfl, nofun, nofun⟩
  | list es => exact ⟨_, _, Tree.tokens_list es, nofun, nofun⟩
  | object ms => exact ⟨_, _, Tree.tokens_object ms, nofun, nofun⟩

/-- Only null begins with the token for null. -/
theorem Tree.eq_null_of_tokens {t : Tree} {ts rest : List Token}
    (h : .null :: ts = t.tokens ++ rest) : t = .null ∧ ts = rest := by
  cases t with
  | null => exact ⟨rfl, (List.cons.inj h).2⟩
  | list es =>
      rw [Tree.tokens_list] at h
      cases h
  | object ms =>
      rw [Tree.tokens_object] at h
      cases h
  | _ => cases h

/-- A reader that refuses reads nothing. -/
theorem refuse_ne_ok {expected : Expected} {ts : List Token} {x : α × List Token} :
    refuse expected ts ≠ .ok x := by
  intro h
  obtain ⟨_, _, h⟩ := bind_eq_ok_iff.1 h
  cases h

/-! ### Single values -/

/-- The tree is a string that stands for a text. -/
def IsText (t : Tree) (s : String) : Prop :=
  ∃ content, t = .text content ∧ Means content s

/-- The tree is a truth value. -/
def IsBoolean (t : Tree) (b : Bool) : Prop :=
  t = .boolean b

/-- The tree is null, for which there is a value of its own, or has a shape. -/
def NullOr (blank : α) (R : Tree → α → Prop) (t : Tree) (a : α) : Prop :=
  match t with
  | .null => a = blank
  | t => R t a

/-- Reading a text. -/
theorem reads_text : Reads text IsText := by
  intro ts s rest
  constructor
  · intro h
    unfold text at h
    split at h
    · obtain ⟨s', hs, heq⟩ := map_eq_ok_iff.1 h
      cases heq
      obtain ⟨rfl, hmeans⟩ := textOf_eq_ok_iff.1 hs
      exact ⟨.text _, rfl, _, rfl, hmeans⟩
    · exact absurd h refuse_ne_ok
  · rintro ⟨_, rfl, content, rfl, hmeans⟩
    have htext := textOf_eq_ok_iff.2 ⟨rfl, hmeans⟩
    exact map_eq_ok_iff.2 ⟨s, htext, rfl⟩

/-- Reading a truth value. -/
theorem reads_boolean : Reads boolean IsBoolean := by
  intro ts b rest
  constructor
  · intro h
    unfold boolean at h
    split at h
    · cases h
      exact ⟨.boolean b, rfl, rfl⟩
    · exact absurd h refuse_ne_ok
  · rintro ⟨_, rfl, rfl⟩
    rfl

/-- Reading null as a given value. -/
theorem reads_orNull {blank : α} {r : Reader α} {R : Tree → α → Prop} (h : Reads r R) :
    Reads (orNull blank r) (NullOr blank R) := by
  intro ts a rest
  unfold orNull
  split
  · next ts =>
    constructor
    · intro hread
      cases hread
      exact ⟨.null, rfl, rfl⟩
    · rintro ⟨t, hts, ht⟩
      obtain ⟨rfl, rfl⟩ := Tree.eq_null_of_tokens hts
      obtain rfl : a = blank := ht
      rfl
  · next hnull =>
    rw [h ts a rest]
    have hne : ∀ t : Tree, ts = t.tokens ++ rest → (NullOr blank R t a ↔ R t a) := by
      intro t hts
      cases t with
      | null => exact (hnull rest hts).elim
      | _ => exact Iff.rfl
    constructor
    · rintro ⟨t, hts, ht⟩
      exact ⟨t, hts, (hne t hts).2 ht⟩
    · rintro ⟨t, hts, ht⟩
      exact ⟨t, hts, (hne t hts).1 ht⟩

/-- Reading a value and changing what it is read as. -/
theorem reads_map {r : Reader α} {R : Tree → α → Prop} (h : Reads r R) (f : α → β) :
    Reads (fun ts => (r ts).map fun (a, rest) => (f a, rest))
      (fun t b => ∃ a, R t a ∧ b = f a) := by
  intro ts b rest
  rw [map_eq_ok_iff]
  constructor
  · rintro ⟨⟨a, rest'⟩, hread, heq⟩
    cases heq
    obtain ⟨t, hts, ht⟩ := (h ts a rest).1 hread
    exact ⟨t, hts, a, ht, rfl⟩
  · rintro ⟨t, hts, a, ht, rfl⟩
    exact ⟨(a, rest), (h ts a rest).2 ⟨t, hts, ht⟩, rfl⟩

/-- Reading a value that may be null. -/
theorem reads_optional {r : Reader α} {R : Tree → α → Prop} (h : Reads r R) :
    Reads (optional r) (NullOr none fun t a => ∃ b, R t b ∧ a = some b) :=
  reads_orNull (reads_map h some)

/-- Skipping a value. -/
theorem reads_skip (s : σ) :
    Reads (fun ts => (skip ts).map fun rest => (s, rest)) (fun _ s' => s' = s) := by
  intro ts s' rest
  rw [map_eq_ok_iff]
  constructor
  · rintro ⟨rest', hskip, heq⟩
    cases heq
    obtain ⟨t, hts⟩ := skip_eq_ok_iff.1 hskip
    exact ⟨t, hts, rfl⟩
  · rintro ⟨t, hts, rfl⟩
    exact ⟨rest, skip_eq_ok_iff.2 ⟨t, hts⟩, rfl⟩

/-! ### Lists -/

/-- The tree is a list whose elements have a shape. -/
def IsList (R : Tree → α → Prop) (t : Tree) (as : List α) : Prop :=
  ∃ es, t = .list es ∧ List.Forall₂ R es as

/-- Rows behind commas, the first without one where it is the first of all. -/
def rowsFrom (first : Bool) (rows : List (List Token)) : List Token :=
  match first with
  | true => commas rows
  | false => rows.flatMap (.comma :: ·)

/-- No rows have no tokens. -/
theorem rowsFrom_nil (first : Bool) : rowsFrom first [] = [] := by
  cases first <;> rfl

/-- The first row of all. -/
theorem rowsFrom_true_cons (row : List Token) (rows : List (List Token)) :
    rowsFrom true (row :: rows) = row ++ rowsFrom false rows := rfl

/-- A row behind a comma. -/
theorem rowsFrom_false_cons (row : List Token) (rows : List (List Token)) :
    rowsFrom false (row :: rows) = .comma :: (row ++ rowsFrom false rows) := rfl

/-- What the elements of a list are read from is their tokens and the bracket. -/
theorem elements_inv {r : Reader α} {R : Tree → α → Prop} (h : Reads r R) {n : Nat}
    {first : Bool} {ts rest : List Token} {as : List α}
    (hread : elements n r first ts = .ok (as, rest)) :
    ∃ es, ts = rowsFrom first (es.map Tree.tokens) ++ .closeList :: rest ∧
      List.Forall₂ R es as := by
  induction n generalizing first ts as with
  | zero =>
      unfold elements at hread
      split at hread
      · cases hread
      · cases hread
        exact ⟨[], by rw [List.map_nil, rowsFrom_nil]; rfl, .nil⟩
      · cases hread
      · contradiction
  | succ n ih =>
      have helement : ∀ {ts : List Token} {as : List α},
          ((r ts).bind fun x => (elements n r false x.2).map fun y => (x.1 :: y.1, y.2))
            = .ok (as, rest) →
          ∃ es, ts = rowsFrom true (es.map Tree.tokens) ++ .closeList :: rest ∧
            List.Forall₂ R es as := by
        intro ts as hread
        obtain ⟨⟨a, more⟩, ha, hmore⟩ := bind_eq_ok_iff.1 hread
        obtain ⟨⟨as', rest'⟩, has, heq⟩ := map_eq_ok_iff.1 hmore
        cases heq
        obtain ⟨e, rfl, he⟩ := (h ts a more).1 ha
        obtain ⟨es, rfl, hes⟩ := ih has
        refine ⟨e :: es, ?_, .cons he hes⟩
        rw [List.map_cons, rowsFrom_true_cons, List.append_assoc]
      unfold elements at hread
      split at hread
      · cases hread
      · cases hread
        exact ⟨[], by rw [List.map_nil, rowsFrom_nil]; rfl, .nil⟩
      · contradiction
      · next heq =>
        obtain rfl := Nat.succ.inj heq
        cases first with
        | true => exact helement hread
        | false =>
            rw [if_neg Bool.false_ne_true] at hread
            split at hread
            · next hcomma =>
              split at hread
              · cases hread
              · cases hread
              · next hclose =>
                -- The bracket does not stand behind a comma, so there is an element.
                obtain ⟨es, rfl, hes⟩ := helement hread
                cases es with
                | nil => exact (hclose rest rfl).elim
                | cons e es => exact ⟨e :: es, by rw [hcomma]; rfl, hes⟩
            · cases hread

/-- The first element is read where it stands. -/
theorem elements_first (n : Nat) (r : Reader α) (t : Tree) (more : List Token) :
    elements (n + 1) r true (t.tokens ++ more) = (r (t.tokens ++ more)).bind fun (a, rest) =>
      (elements n r false rest).map fun (as, rest) => (a :: as, rest) := by
  obtain ⟨k, ks, hhead, hclose, -⟩ := t.exists_head
  rw [hhead, List.cons_append, elements.eq_def]
  cases k with
  | closeList => contradiction
  | _ => rfl

/-- Every further element is read behind its comma. -/
theorem elements_comma (n : Nat) (r : Reader α) (t : Tree) (more : List Token) :
    elements (n + 1) r false (.comma :: (t.tokens ++ more))
      = (r (t.tokens ++ more)).bind fun (a, rest) =>
        (elements n r false rest).map fun (as, rest) => (a :: as, rest) := by
  obtain ⟨k, ks, hhead, hclose, -⟩ := t.exists_head
  rw [hhead, List.cons_append, elements.eq_def]
  cases k with
  | closeList => contradiction
  | _ => rfl

/-- Elements of a shape are read up to the bracket. -/
theorem elements_rows {r : Reader α} {R : Tree → α → Prop} (h : Reads r R) {es : List Tree}
    {as : List α} (hes : List.Forall₂ R es as) (n : Nat) (first : Bool) (rest : List Token)
    (hn : (rowsFrom first (es.map Tree.tokens) ++ .closeList :: rest).length ≤ n) :
    elements n r first (rowsFrom first (es.map Tree.tokens) ++ .closeList :: rest)
      = .ok (as, rest) := by
  induction hes generalizing n first with
  | nil =>
      rw [List.map_nil, rowsFrom_nil, List.nil_append, elements.eq_def]
  | @cons e a es as he hes ih =>
      obtain ⟨k, ks, hhead, -⟩ := e.exists_head
      have hread := (h _ a (rowsFrom false (es.map Tree.tokens) ++ .closeList :: rest)).2
        ⟨e, rfl, he⟩
      cases first with
      | true =>
          rw [List.map_cons, rowsFrom_true_cons, List.append_assoc] at hn ⊢
          rw [hhead, List.cons_append, List.length_cons, List.length_append] at hn
          obtain ⟨n, rfl⟩ : ∃ m, n = m + 1 := ⟨n - 1, by omega⟩
          rw [elements_first, hread]
          exact map_eq_ok_iff.2 ⟨_, ih _ _ (by omega), rfl⟩
      | false =>
          rw [List.map_cons, rowsFrom_false_cons, List.cons_append, List.append_assoc] at hn ⊢
          rw [List.length_cons, List.length_append] at hn
          obtain ⟨n, rfl⟩ : ∃ m, n = m + 1 := ⟨n - 1, by omega⟩
          rw [elements_comma, hread]
          exact map_eq_ok_iff.2 ⟨_, ih _ _ (by omega), rfl⟩

/-- Reading a list. -/
theorem reads_listOf {r : Reader α} {R : Tree → α → Prop} (h : Reads r R) :
    Reads (listOf r) (IsList R) := by
  intro ts as rest
  constructor
  · intro hread
    unfold listOf at hread
    split at hread
    · obtain ⟨es, rfl, hes⟩ := elements_inv h hread
      refine ⟨.list es, ?_, es, rfl, hes⟩
      rw [Tree.tokens_list, List.cons_append, List.append_assoc]
      rfl
    · exact absurd hread refuse_ne_ok
  · rintro ⟨_, rfl, es, rfl, hes⟩
    have hread := elements_rows h hes _ true rest (Nat.le_refl _)
    rw [Tree.tokens_list, List.cons_append, List.append_assoc]
    exact hread

/-! ### Objects -/

/-- The members of an object with the **keys that they are read under**. -/
def Keyed (ms : List (List Piece × Tree)) (entries : List (String × Tree)) : Prop :=
  List.Forall₂ (fun m e => Means m.1 e.1 ∧ e.2 = m.2) ms entries

/-- What reading keyed members **in turn makes of a state**, if `M` says what one makes of it. -/
inductive Folded (M : σ → String → Tree → σ → Prop) : σ → List (String × Tree) → σ → Prop where
  | nil {s : σ} : Folded M s [] s
  | cons {s s' s'' : σ} {key : String} {t : Tree} {entries : List (String × Tree)} :
      M s key t s' → Folded M s' entries s'' → Folded M s ((key, t) :: entries) s''

/-- A **reader of members reads a relation** between the states before and after a member. -/
def ReadsMember (reader : σ → String → Except Failure (Reader σ))
    (M : σ → String → Tree → σ → Prop) : Prop :=
  ∀ s key ts s' rest, ((reader s key).bind fun r => r ts) = .ok (s', rest) ↔
    ∃ t : Tree, ts = t.tokens ++ rest ∧ M s key t s'

/-- The colon behind a key. -/
theorem colon_eq_ok_iff {ts rest : List Token} : colon ts = .ok rest ↔ ts = .colon :: rest := by
  constructor
  · intro h
    unfold colon at h
    split at h
    · cases h
    · cases h
      rfl
    · cases h
  · rintro rfl
    rfl

/-- Reading one member. -/
theorem member_eq_ok_iff {reader : σ → String → Except Failure (Reader σ)}
    {M : σ → String → Tree → σ → Prop} (h : ReadsMember reader M) {s s' : σ}
    {ts rest : List Token} :
    member reader s ts = .ok (s', rest) ↔
      ∃ m key, ts = memberTokens m ++ rest ∧ Means m.1 key ∧ M s key m.2 s' := by
  constructor
  · intro hread
    unfold member at hread
    split at hread
    · next pieces fault ts =>
      obtain ⟨key, hkey, hbehind⟩ := bind_eq_ok_iff.1 hread
      obtain ⟨r, hr, hvalue⟩ := bind_eq_ok_iff.1 hbehind
      obtain ⟨more, hcolon, hmore⟩ := bind_eq_ok_iff.1 hvalue
      obtain ⟨rfl, hmeans⟩ := textOf_eq_ok_iff.1 hkey
      obtain rfl := colon_eq_ok_iff.1 hcolon
      obtain ⟨t, rfl, ht⟩ := (h s key more s' rest).1 (bind_eq_ok_iff.2 ⟨r, hr, hmore⟩)
      exact ⟨(pieces, t), key, rfl, hmeans, ht⟩
    · cases hread
  · rintro ⟨⟨pieces, t⟩, key, rfl, hmeans, ht⟩
    obtain ⟨r, hr, hread⟩ := bind_eq_ok_iff.1 ((h s key _ s' rest).2 ⟨t, rfl, ht⟩)
    refine bind_eq_ok_iff.2 ⟨key, textOf_eq_ok_iff.2 ⟨rfl, hmeans⟩, ?_⟩
    refine bind_eq_ok_iff.2 ⟨r, hr, ?_⟩
    exact bind_eq_ok_iff.2 ⟨_, colon_eq_ok_iff.2 rfl, hread⟩

/-- What the members of an object are read from is their tokens and the brace. -/
theorem members_inv {reader : σ → String → Except Failure (Reader σ)}
    {M : σ → String → Tree → σ → Prop} (h : ReadsMember reader M) {n : Nat} {first : Bool}
    {s s' : σ} {ts rest : List Token} (hread : members n reader first s ts = .ok (s', rest)) :
    ∃ ms entries, ts = rowsFrom first (ms.map memberTokens) ++ .closeObject :: rest ∧
      Keyed ms entries ∧ Folded M s entries s' := by
  induction n generalizing first s ts with
  | zero =>
      unfold members at hread
      split at hread
      · cases hread
      · cases hread
        exact ⟨[], [], by rw [List.map_nil, rowsFrom_nil]; rfl, .nil, .nil⟩
      · cases hread
      · contradiction
  | succ n ih =>
      have hmember : ∀ {ts : List Token},
          ((member reader s ts).bind fun (s, rest) => members n reader false s rest)
            = .ok (s', rest) →
          ∃ ms entries, ts = rowsFrom true (ms.map memberTokens) ++ .closeObject :: rest ∧
            Keyed ms entries ∧ Folded M s entries s' := by
        intro ts hread
        obtain ⟨⟨s₁, more⟩, hm, hmore⟩ := bind_eq_ok_iff.1 hread
        obtain ⟨m, key, rfl, hmeans, hM⟩ := (member_eq_ok_iff h).1 hm
        obtain ⟨ms, entries, rfl, hms, hentries⟩ := ih hmore
        refine ⟨m :: ms, (key, m.2) :: entries, ?_, .cons ⟨hmeans, rfl⟩ hms, .cons hM hentries⟩
        rw [List.map_cons, rowsFrom_true_cons, List.append_assoc]
      unfold members at hread
      split at hread
      · cases hread
      · cases hread
        exact ⟨[], [], by rw [List.map_nil, rowsFrom_nil]; rfl, .nil, .nil⟩
      · contradiction
      · next heq =>
        obtain rfl := Nat.succ.inj heq
        cases first with
        | true => exact hmember hread
        | false =>
            rw [if_neg Bool.false_ne_true] at hread
            split at hread
            · next hcomma =>
              split at hread
              · cases hread
              · cases hread
              · next hclose =>
                obtain ⟨ms, entries, rfl, hms, hentries⟩ := hmember hread
                cases ms with
                | nil => exact (hclose rest rfl).elim
                | cons m ms => exact ⟨m :: ms, entries, by rw [hcomma]; rfl, hms, hentries⟩
            · cases hread

/-- The first member is read where it stands. -/
theorem members_first (n : Nat) (reader : σ → String → Except Failure (Reader σ)) (s : σ)
    (m : List Piece × Tree) (more : List Token) :
    members (n + 1) reader true s (memberTokens m ++ more)
      = (member reader s (memberTokens m ++ more)).bind fun (s, rest) =>
        members n reader false s rest := by
  rw [members.eq_def]
  rfl

/-- Every further member is read behind its comma. -/
theorem members_comma (n : Nat) (reader : σ → String → Except Failure (Reader σ)) (s : σ)
    (m : List Piece × Tree) (more : List Token) :
    members (n + 1) reader false s (.comma :: (memberTokens m ++ more))
      = (member reader s (memberTokens m ++ more)).bind fun (s, rest) =>
        members n reader false s rest := by
  rw [members.eq_def]
  rfl

/-- Members are read up to the brace. -/
theorem members_rows {reader : σ → String → Except Failure (Reader σ)}
    {M : σ → String → Tree → σ → Prop} (h : ReadsMember reader M) {s s' : σ}
    {ms : List (List Piece × Tree)} {entries : List (String × Tree)} (hms : Keyed ms entries)
    (hentries : Folded M s entries s') (n : Nat) (first : Bool) (rest : List Token)
    (hn : (rowsFrom first (ms.map memberTokens) ++ .closeObject :: rest).length ≤ n) :
    members n reader first s (rowsFrom first (ms.map memberTokens) ++ .closeObject :: rest)
      = .ok (s', rest) := by
  induction hms generalizing s n first with
  | nil =>
      cases hentries
      rw [List.map_nil, rowsFrom_nil, List.nil_append, members.eq_def]
  | @cons m e ms entries hm hms ih =>
      obtain ⟨key, t⟩ := e
      obtain ⟨hmeans, rfl⟩ := hm
      cases hentries with
      | cons hM hentries =>
      rename_i s₁
      have hread : ∀ more, member reader s (memberTokens m ++ more) = .ok (s₁, more) :=
        fun more => (member_eq_ok_iff h).2 ⟨m, key, rfl, hmeans, hM⟩
      cases first with
      | true =>
          rw [List.map_cons, rowsFrom_true_cons, List.append_assoc] at hn ⊢
          rw [memberTokens, List.cons_append, List.cons_append, List.length_cons,
            List.length_cons, List.length_append] at hn
          obtain ⟨n, rfl⟩ : ∃ k, n = k + 1 := ⟨n - 1, by omega⟩
          rw [members_first, hread]
          exact ih hentries _ _ (by omega)
      | false =>
          rw [List.map_cons, rowsFrom_false_cons, List.cons_append, List.append_assoc] at hn ⊢
          rw [List.length_cons, List.length_append] at hn
          obtain ⟨n, rfl⟩ : ∃ k, n = k + 1 := ⟨n - 1, by omega⟩
          rw [members_comma, hread]
          exact ih hentries _ _ (by omega)

/-- The members of an object, behind its brace. -/
theorem members_eq_ok_iff {reader : σ → String → Except Failure (Reader σ)}
    {M : σ → String → Tree → σ → Prop} (h : ReadsMember reader M) {s s' : σ}
    {ts rest : List Token} :
    members ts.length reader true s ts = .ok (s', rest) ↔
      ∃ ms entries, .openObject :: ts = (Tree.object ms).tokens ++ rest ∧ Keyed ms entries ∧
        Folded M s entries s' := by
  have hobject : ∀ ms : List (List Piece × Tree), (Tree.object ms).tokens ++ rest
      = .openObject :: (rowsFrom true (ms.map memberTokens) ++ .closeObject :: rest) := by
    intro ms
    rw [Tree.tokens_object, List.cons_append, List.append_assoc]
    rfl
  constructor
  · intro hread
    obtain ⟨ms, entries, rfl, hms, hentries⟩ := members_inv h hread
    exact ⟨ms, entries, (hobject ms).symm, hms, hentries⟩
  · rintro ⟨ms, entries, hts, hms, hentries⟩
    obtain rfl := (List.cons.inj (hts.trans (hobject ms))).2
    exact members_rows h hms hentries _ true rest (Nat.le_refl _)

/-- What keyed members are read as, if their values have a shape. -/
def Valued (R : Tree → α → Prop) (entries : List (String × Tree)) (values : List (String × α)) :
    Prop :=
  List.Forall₂ (fun e v => v.1 = e.1 ∧ R e.2 v.2) entries values

/-- The tree is an object whose members' values have a shape, and what they are read as is
put into a map in turn. -/
def IsMap (empty : σ) (insert : σ → String → α → σ) (R : Tree → α → Prop) (t : Tree)
    (s : σ) : Prop :=
  ∃ ms entries values, t = .object ms ∧ Keyed ms entries ∧ Valued R entries values ∧
    s = values.foldl (fun s v => insert s v.1 v.2) empty

/-- Inserting in turn what members are read as is reading them first and inserting then. -/
theorem folded_insert_iff {insert : σ → String → α → σ} {R : Tree → α → Prop} {s s' : σ}
    {entries : List (String × Tree)} :
    Folded (fun s key t s' => ∃ a, R t a ∧ s' = insert s key a) s entries s' ↔
      ∃ values, Valued R entries values ∧
        s' = values.foldl (fun s v => insert s v.1 v.2) s := by
  constructor
  · intro h
    induction h with
    | nil => exact ⟨[], .nil, rfl⟩
    | cons hM _ ih =>
        obtain ⟨a, ha, rfl⟩ := hM
        obtain ⟨values, hvalues, hs⟩ := ih
        exact ⟨(_, a) :: values, .cons ⟨rfl, ha⟩ hvalues, hs⟩
  · rintro ⟨values, hvalues, rfl⟩
    induction hvalues generalizing s with
    | nil => exact .nil
    | cons hv _ ih =>
        obtain ⟨hkey, ha⟩ := hv
        exact .cons ⟨_, ha, by rw [← hkey]⟩ ih

/-- Reading a map. -/
theorem reads_mapOf {r : Reader α} {R : Tree → α → Prop} (h : Reads r R) (empty : σ)
    (insert : σ → String → α → σ) : Reads (mapOf empty insert r) (IsMap empty insert R) := by
  intro ts s rest
  have hmember : ReadsMember
      (fun s key => .ok fun ts => (r ts).map fun (a, rest) => (insert s key a, rest))
      (fun s key t s' => ∃ a, R t a ∧ s' = insert s key a) :=
    fun s key ts s' rest => reads_map h (insert s key) ts s' rest
  constructor
  · intro hread
    unfold mapOf at hread
    split at hread
    · next ts =>
      obtain ⟨ms, entries, hts, hms, hentries⟩ := (members_eq_ok_iff hmember).1 hread
      obtain ⟨values, hvalues, hs⟩ := folded_insert_iff.1 hentries
      exact ⟨.object ms, hts, ms, entries, values, rfl, hms, hvalues, hs⟩
    · exact absurd hread refuse_ne_ok
  · rintro ⟨_, rfl, ms, entries, values, rfl, hms, hvalues, hs⟩
    rw [Tree.tokens_object, List.cons_append]
    refine (members_eq_ok_iff hmember).2
      ⟨ms, entries, ?_, hms, folded_insert_iff.2 ⟨values, hvalues, hs⟩⟩
    rw [Tree.tokens_object, List.cons_append]

/-! ### Whole texts -/

/-- Reading tokens that are one value. -/
theorem whole_eq_ok_iff {r : Reader α} {R : Tree → α → Prop} (h : Reads r R) {ts : List Token}
    {a : α} : whole r ts = .ok a ↔ ∃ t : Tree, ts = t.tokens ∧ R t a := by
  rw [whole, bind_eq_ok_iff]
  constructor
  · rintro ⟨⟨a', rest⟩, hread, hend⟩
    cases rest with
    | nil =>
        cases hend
        obtain ⟨t, hts, ht⟩ := (h ts a []).1 hread
        exact ⟨t, by rw [hts, List.append_nil], ht⟩
    | cons t rest => cases hend
  · rintro ⟨t, rfl, ht⟩
    exact ⟨(a, []), (h t.tokens a []).2 ⟨t, (List.append_nil _).symm, ht⟩, rfl⟩

/-- Reading a **whole text**: it succeeds exactly if the text spells a tree of the shape, with
white space before and behind it and between its tokens, and nothing else. -/
theorem whole_tokens_eq_ok_iff {r : Reader α} {R : Tree → α → Prop} (h : Reads r R)
    {bs : List UInt8} {a : α} :
    whole r (tokens bs) = .ok a ↔ ∃ t : Tree, Spelled t.tokens bs ∧ R t a := by
  rw [whole_eq_ok_iff h]
  constructor
  · rintro ⟨t, hts, ht⟩
    have hspelled : Spelled (tokens bs) bs := spelled_tokens (hts ▸ t.isFaulty_eq_false)
    exact ⟨t, hts ▸ hspelled, ht⟩
  · rintro ⟨t, hspelled, ht⟩
    have hsep := t.separated [] trivial nofun
    rw [List.append_nil] at hsep
    exact ⟨t, tokens_eq_of_spelled hspelled hsep, ht⟩

end Scaffold.Json
