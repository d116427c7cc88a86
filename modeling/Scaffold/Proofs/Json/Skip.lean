import Scaffold.Json.Skip
import Scaffold.Proofs.Json.Tree

/-!
# Skipping passes over one value

The automaton that skips a value keeps a stack of frames in place of recursion. What the open
frames still demand of the tokens is written down as `Closes`, and what a state demands as
`Completes`. Every accepting run meets the demand of the state that it starts from, so what it
passes over is the tokens of a value; and over the tokens of a value it runs to the end,
however deep the value is.

## Main results

* `SkipState.step_sound` - one step: what the state behind it demands, the state before it does.
* `skipFrom_tokens` - a run over the tokens of a value.
* `skip_eq_ok_iff` - skipping succeeds exactly on the tokens of a value.
-/

namespace Scaffold.Json

open Scaffold.Json.Tree (memberTokens)

/-! ### Accepted values -/

/-- What the **open frames demand** of the tokens behind a value: for each, the elements or
members that follow behind commas, and the bracket or brace that closes it. -/
def Closes (frames : List Frame) (ts : List Token) : Prop :=
  match frames with
  | [] => ts = []
  | .list :: outer => ∃ (es : List Tree) (more : List Token),
      ts = (es.map Tree.tokens).flatMap (.comma :: ·) ++ .closeList :: more ∧ Closes outer more
  | .object :: outer => ∃ (ms : List (List Piece × Tree)) (more : List Token),
      ts = (ms.map memberTokens).flatMap (.comma :: ·) ++ .closeObject :: more ∧
        Closes outer more

namespace SkipState

/-- What a **state demands** of the tokens before it. A state within a frame without any open
ends at the next token, whatever it is; no run gets there. -/
def Completes (s : SkipState) (ts : List Token) : Prop :=
  match s.mode, s.frames with
  | .value, frames => ∃ (t : Tree) (more : List Token), ts = t.tokens ++ more ∧ Closes frames more
  | .opened, .list :: outer =>
      (∃ more, ts = .closeList :: more ∧ Closes outer more) ∨
        ∃ (t : Tree) (more : List Token), ts = t.tokens ++ more ∧ Closes (.list :: outer) more
  | .opened, .object :: outer =>
      (∃ more, ts = .closeObject :: more ∧ Closes outer more) ∨
        ∃ m more, ts = memberTokens m ++ more ∧ Closes (.object :: outer) more
  | .key, frames => ∃ m more, ts = memberTokens m ++ more ∧ Closes frames more
  | .colon, frames => ∃ (t : Tree) (more : List Token),
      ts = .colon :: (t.tokens ++ more) ∧ Closes frames more
  | .after, f :: outer => Closes (f :: outer) ts
  | _, [] => ts.length = 1

/-- What is demanded behind a step: nothing more if it completes the value. -/
def Demands (next : Option SkipState) (ts : List Token) : Prop :=
  match next with
  | none => ts = []
  | some s => s.Completes ts

/-- Behind a complete value the frames around it demand what they do. -/
theorem closes_of_demands {frames : List Frame} {ts : List Token}
    (h : Demands (completed frames) ts) : Closes frames ts := by
  cases frames with
  | nil => exact h
  | cons f outer => exact h

/-- A token that is read as the first of a value begins one. -/
theorem onValue_sound {frames : List Frame} {t : Token} {next : Option SkipState}
    {ts : List Token} (h : onValue frames t = .ok next) (hts : Demands next ts) :
    ∃ (v : Tree) (more : List Token), t :: ts = v.tokens ++ more ∧ Closes frames more := by
  cases t with
  | null =>
      cases h
      exact ⟨.null, ts, rfl, closes_of_demands hts⟩
  | boolean b =>
      cases h
      exact ⟨.boolean b, ts, rfl, closes_of_demands hts⟩
  | number n =>
      cases h
      exact ⟨.number n, ts, rfl, closes_of_demands hts⟩
  | string content fault =>
      cases fault with
      | none =>
          cases h
          exact ⟨.text content, ts, rfl, closes_of_demands hts⟩
      | some f => cases h
  | openList =>
      cases h
      rcases hts with ⟨more, rfl, hmore⟩ | ⟨e, _, rfl, es, more, rfl, hmore⟩
      · exact ⟨.list [], more, rfl, hmore⟩
      · refine ⟨.list (e :: es), more, ?_, hmore⟩
        rw [Tree.tokens_list, List.map_cons, commas]
        simp only [List.cons_append, List.append_assoc, List.nil_append]
  | openObject =>
      cases h
      rcases hts with ⟨more, rfl, hmore⟩ | ⟨m, _, rfl, ms, more, rfl, hmore⟩
      · exact ⟨.object [], more, rfl, hmore⟩
      · refine ⟨.object (m :: ms), more, ?_, hmore⟩
        rw [Tree.tokens_object, List.map_cons, commas]
        simp only [List.cons_append, List.append_assoc, List.nil_append]
  | _ => cases h

/-- A token that is read as a key begins a member. -/
theorem onKey_sound {frames : List Frame} {t : Token} {next : Option SkipState}
    {ts : List Token} (h : onKey frames t = .ok next) (hts : Demands next ts) :
    ∃ m more, t :: ts = memberTokens m ++ more ∧ Closes frames more := by
  cases t with
  | string content fault =>
      cases fault with
      | none =>
          cases h
          obtain ⟨v, more, rfl, hmore⟩ := hts
          exact ⟨(content, v), more, rfl, hmore⟩
      | some f => cases h
  | _ => cases h

/-- Behind an opening bracket, a token closes the list or is the first of a value. -/
theorem opened_list_sound {outer : List Frame} {t : Token} {next : Option SkipState}
    {ts : List Token} (h : step ⟨.list :: outer, .opened⟩ t = .ok next) (hts : Demands next ts) :
    Completes ⟨.list :: outer, .opened⟩ (t :: ts) := by
  simp only [step] at h
  split at h
  · next ht =>
    cases h
    exact .inl ⟨ts, by rw [ht], closes_of_demands hts⟩
  · exact .inr (onValue_sound h hts)

/-- Behind an opening brace, a token closes the object or is a key. -/
theorem opened_object_sound {outer : List Frame} {t : Token} {next : Option SkipState}
    {ts : List Token} (h : step ⟨.object :: outer, .opened⟩ t = .ok next)
    (hts : Demands next ts) : Completes ⟨.object :: outer, .opened⟩ (t :: ts) := by
  simp only [step] at h
  split at h
  · next ht =>
    cases h
    exact .inl ⟨ts, by rw [ht], closes_of_demands hts⟩
  · exact .inr (onKey_sound h hts)

/-- Behind an element, a token closes the list or leads to a further element. -/
theorem after_list_sound {outer : List Frame} {t : Token} {next : Option SkipState}
    {ts : List Token} (h : step ⟨.list :: outer, .after⟩ t = .ok next) (hts : Demands next ts) :
    Completes ⟨.list :: outer, .after⟩ (t :: ts) := by
  simp only [step] at h
  split at h
  · next ht =>
    cases h
    exact ⟨[], ts, by rw [ht]; rfl, closes_of_demands hts⟩
  split at h
  · next ht =>
    cases h
    obtain ⟨e, _, rfl, es, more, rfl, hmore⟩ := hts
    refine ⟨e :: es, more, ?_, hmore⟩
    rw [ht, List.map_cons, List.flatMap_cons, List.cons_append, List.cons_append,
      List.append_assoc]
  · cases h

/-- Behind a member, a token closes the object or leads to a further member. -/
theorem after_object_sound {outer : List Frame} {t : Token} {next : Option SkipState}
    {ts : List Token} (h : step ⟨.object :: outer, .after⟩ t = .ok next) (hts : Demands next ts) :
    Completes ⟨.object :: outer, .after⟩ (t :: ts) := by
  simp only [step] at h
  split at h
  · next ht =>
    cases h
    exact ⟨[], ts, by rw [ht]; rfl, closes_of_demands hts⟩
  split at h
  · next ht =>
    cases h
    obtain ⟨m, _, rfl, ms, more, rfl, hmore⟩ := hts
    refine ⟨m :: ms, more, ?_, hmore⟩
    rw [ht, List.map_cons, List.flatMap_cons, List.cons_append, List.cons_append,
      List.append_assoc]
  · cases h

/-- **One step keeps the demand**: if the tokens behind it are what the next state demands,
those before it are what the state demanded. -/
theorem step_sound {s : SkipState} {t : Token} {next : Option SkipState} {ts : List Token}
    (h : s.step t = .ok next) (hts : Demands next ts) : s.Completes (t :: ts) := by
  -- A state within a frame, but without one, is where no run gets: any token ends it.
  have hend (hnext : none = next) : (t :: ts).length = 1 := by
    subst hnext
    obtain rfl : ts = [] := hts
    rfl
  obtain ⟨frames, mode⟩ := s
  cases mode with
  | value => exact onValue_sound h hts
  | key => exact onKey_sound h hts
  | colon =>
      simp only [step] at h
      split at h
      · next ht =>
        cases h
        obtain ⟨v, more, rfl, hmore⟩ := hts
        exact ⟨v, more, by rw [ht], hmore⟩
      · cases h
  | opened =>
      cases frames with
      | nil => exact hend (Except.ok.inj h)
      | cons f outer =>
          cases f with
          | list => exact opened_list_sound h hts
          | object => exact opened_object_sound h hts
  | after =>
      cases frames with
      | nil => exact hend (Except.ok.inj h)
      | cons f outer =>
          cases f with
          | list => exact after_list_sound h hts
          | object => exact after_object_sound h hts

end SkipState

open SkipState

/-- What an accepting run passes over is what the state that it starts from demands. -/
theorem skipFrom_sound {s : SkipState} {ts rest : List Token} (h : skipFrom s ts = .ok rest) :
    ∃ passed, ts = passed ++ rest ∧ s.Completes passed := by
  induction ts generalizing s with
  | nil => cases h
  | cons t ts ih =>
      rw [skipFrom] at h
      split at h
      · cases h
      · next hstep =>
        cases h
        exact ⟨[t], rfl, step_sound hstep rfl⟩
      · next s' hstep =>
        obtain ⟨passed, rfl, hpassed⟩ := ih h
        exact ⟨t :: passed, rfl, step_sound hstep hpassed⟩

/-! ### Runs over a value -/

/-- The run behind a complete value. -/
def resume (frames : List Frame) (ts : List Token) : Except Failure (List Token) :=
  match completed frames with
  | none => .ok ts
  | some s => skipFrom s ts

/-- A run whose next step is accepted. -/
theorem skipFrom_cons {s : SkipState} {t : Token} {ts : List Token} {frames : List Frame}
    (h : s.step t = .ok (completed frames)) : skipFrom s (t :: ts) = resume frames ts := by
  rw [skipFrom, h, resume]
  cases completed frames <;> rfl

/-- A run whose next step leads to a state. -/
theorem skipFrom_step {s s' : SkipState} {t : Token} {ts : List Token}
    (h : s.step t = .ok (some s')) : skipFrom s (t :: ts) = skipFrom s' ts := by
  rw [skipFrom, h]

/-- Behind an opening bracket the first element is read as any value is. -/
theorem skipFrom_opened_tokens (outer : List Frame) (v : Tree) (rest : List Token) :
    skipFrom ⟨.list :: outer, .opened⟩ (v.tokens ++ rest)
      = skipFrom ⟨.list :: outer, .value⟩ (v.tokens ++ rest) := by
  cases v <;> rfl

/-- Behind an opening brace the first key is read as any key is. -/
theorem skipFrom_opened_member (outer : List Frame) (m : List Piece × Tree) (rest : List Token) :
    skipFrom ⟨.object :: outer, .opened⟩ (memberTokens m ++ rest)
      = skipFrom ⟨.object :: outer, .key⟩ (memberTokens m ++ rest) := by
  rfl

/-- Elements behind commas are passed over up to the bracket, if each value is. -/
theorem skipFrom_elements {outer : List Frame} {es : List Tree} (rest : List Token)
    (h : ∀ e ∈ es, ∀ frames more, skipFrom ⟨frames, .value⟩ (e.tokens ++ more)
      = resume frames more) :
    skipFrom ⟨.list :: outer, .after⟩
        ((es.map Tree.tokens).flatMap (.comma :: ·) ++ .closeList :: rest)
      = resume outer rest := by
  induction es with
  | nil => exact skipFrom_cons rfl
  | cons e es ih =>
      obtain ⟨he, hes⟩ := List.forall_mem_cons.1 h
      rw [List.map_cons, List.flatMap_cons, List.cons_append, List.cons_append, List.append_assoc,
        skipFrom_step rfl, he]
      exact ih hes

/-- A member is passed over if its value is. -/
theorem skipFrom_member {frames : List Frame} {m : List Piece × Tree} {rest : List Token}
    (h : skipFrom ⟨frames, .value⟩ (m.2.tokens ++ rest) = resume frames rest) :
    skipFrom ⟨frames, .key⟩ (memberTokens m ++ rest) = resume frames rest := by
  rw [memberTokens, List.cons_append, List.cons_append, skipFrom_step rfl, skipFrom_step rfl, h]

/-- Members behind commas are passed over up to the brace, if each value is. -/
theorem skipFrom_members {outer : List Frame} {ms : List (List Piece × Tree)} (rest : List Token)
    (h : ∀ m ∈ ms, ∀ frames more, skipFrom ⟨frames, .value⟩ (m.2.tokens ++ more)
      = resume frames more) :
    skipFrom ⟨.object :: outer, .after⟩
        ((ms.map memberTokens).flatMap (.comma :: ·) ++ .closeObject :: rest)
      = resume outer rest := by
  induction ms with
  | nil => exact skipFrom_cons rfl
  | cons m ms ih =>
      obtain ⟨hm, hms⟩ := List.forall_mem_cons.1 h
      rw [List.map_cons, List.flatMap_cons, List.cons_append, List.cons_append, List.append_assoc,
        skipFrom_step rfl, skipFrom_member (hm _ _)]
      exact ih hms

/-- The automaton **passes over the tokens of a value** and goes on behind it. -/
theorem skipFrom_tokens (v : Tree) (frames : List Frame) (rest : List Token) :
    skipFrom ⟨frames, .value⟩ (v.tokens ++ rest) = resume frames rest := by
  induction v using Tree.induct generalizing frames rest with
  | null => exact skipFrom_cons rfl
  | boolean b => exact skipFrom_cons rfl
  | number n => exact skipFrom_cons rfl
  | text content => exact skipFrom_cons rfl
  | list es ih =>
      rw [Tree.tokens_list, List.cons_append, skipFrom_step rfl]
      cases es with
      | nil => exact skipFrom_cons rfl
      | cons e es =>
          obtain ⟨he, hes⟩ := List.forall_mem_cons.1 ih
          rw [List.map_cons, commas, List.append_assoc, List.append_assoc,
            skipFrom_opened_tokens, he]
          exact skipFrom_elements rest hes
  | object ms ih =>
      rw [Tree.tokens_object, List.cons_append, skipFrom_step rfl]
      cases ms with
      | nil => exact skipFrom_cons rfl
      | cons m ms =>
          obtain ⟨hm, hms⟩ := List.forall_mem_cons.1 ih
          rw [List.map_cons, commas, List.append_assoc, List.append_assoc,
            skipFrom_opened_member, skipFrom_member (hm _ _)]
          exact skipFrom_members rest hms

/-- **Skipping passes over one value**: it succeeds exactly on the tokens of a value, of any
depth, and gives the tokens behind it. -/
theorem skip_eq_ok_iff {ts rest : List Token} :
    skip ts = .ok rest ↔ ∃ v : Tree, ts = v.tokens ++ rest := by
  constructor
  · intro h
    obtain ⟨passed, rfl, v, more, rfl, rfl⟩ := skipFrom_sound h
    exact ⟨v, by rw [List.append_nil]⟩
  · rintro ⟨v, rfl⟩
    exact skipFrom_tokens v [] rest

end Scaffold.Json
