import Scaffold.Generation
import Scaffold.Proofs.Emit.ReadBack
import Scaffold.Proofs.Handler.Enumeration
import Scaffold.Proofs.Output

/-!
# Generation runs in their modes

A run in any mode first makes the source, without looking at the store. The modes then differ
only in what they do with the source, and of them only a write that succeeds changes the store.

## Main results

* `plan_eq` - the stages up to the source, in their order.
* `run_of_plan_error`, `run_of_plan_ok` - a run by what its plan gives.
* `modes_agree` - what the runs in the three modes have in common, and what each leaves behind.
-/

namespace Scaffold.Generated

open Discovery (Document)
open Text (Utf8.encode)

/-! ### The stages -/

/-- Source is emitted in two stages: the trait is validated, and the source is formatted. -/
theorem emit_eq (config : Config) (handlers : List Handler.Descriptor) :
    Emit.emit config handlers =
      match config.validate with
      | .error e => .error e
      | .ok () => Source.format (Template.render (.ofConfig config) handlers) := by
  rw [Emit.emit, Emit.render, Emit.trait]
  cases config.validate with
  | error e => rfl
  | ok _ => simp only [Except.map, Except.bind]

/-- The **stages up to the source**, each of which is reached only if those before it succeed:
the handlers are enumerated, the trait is validated, and the source is formatted. -/
theorem plan_eq (home : String) (config : Config) (doc : Document) :
    plan home config doc =
      match Handler.enumerate doc with
      | .error cause => .error (.decode cause)
      | .ok handlers =>
        match config.validate with
        | .error e => .error e
        | .ok () =>
          (Source.format (Template.render (.ofConfig config) handlers)).map fun source =>
            ⟨config.resolveOutput home, source, handlers.length⟩ := by
  rw [plan]
  cases Handler.enumerate doc with
  | error cause => rfl
  | ok handlers =>
    rw [Except.mapError, ok_bind, emit_eq]
    dsimp only
    cases config.validate with
    | error e => rfl
    | ok _ =>
      dsimp only
      cases Source.format (Template.render (.ofConfig config) handlers) <;> rfl

/-- If all stages succeed, their results are the plan. -/
theorem plan_eq_ok {home : String} {config : Config} {doc : Document}
    {handlers : List Handler.Descriptor} {source : String}
    (hhandlers : Handler.enumerate doc = .ok handlers) (hvalid : config.validate = .ok ())
    (hsource : Source.format (Template.render (.ofConfig config) handlers) = .ok source) :
    plan home config doc = .ok ⟨config.resolveOutput home, source, handlers.length⟩ := by
  rw [plan_eq, hhandlers]
  dsimp only
  rw [hvalid, hsource]
  rfl

/-- A plan has the results of all stages. -/
theorem plan_eq_ok_inv {home : String} {config : Config} {doc : Document} {g : Generated}
    (h : plan home config doc = .ok g) :
    ∃ handlers source, Handler.enumerate doc = .ok handlers ∧
      Source.format (Template.render (.ofConfig config) handlers) = .ok source ∧
      g = ⟨config.resolveOutput home, source, handlers.length⟩ := by
  rw [plan_eq] at h
  split at h
  · cases h
  · next handlers hhandlers =>
    split at h
    · cases h
    · obtain ⟨source, hsource, hg⟩ := map_eq_ok_iff.1 h
      exact ⟨handlers, source, hhandlers, hsource, hg.symm⟩

/-- A run without a plan **fails as the plan does**, whatever its mode and the store. -/
theorem run_of_plan_error {home : String} {config : Config} {doc : Document} {e : Error}
    (h : plan home config doc = .error e) (mode : Mode) (s : Store) :
    run home config mode doc s = (.error e, s) := by
  rw [run, h]

/-- A run with a plan gives what was planned, if the source is delivered. -/
theorem run_of_plan_ok {home : String} {config : Config} {doc : Document} {g : Generated}
    (h : plan home config doc = .ok g) (mode : Mode) (s : Store) :
    run home config mode doc s = ((g.deliver mode s).1.map fun () => g, (g.deliver mode s).2) := by
  rw [run, h]
  dsimp only
  split <;> next hdeliver => rw [hdeliver]; rfl

/-! ### The modes -/

/-- A run that **does not write leaves the store** as it was. -/
theorem store_run_of_ne_write {mode : Mode} (h : mode ≠ .write) (home : String) (config : Config)
    (doc : Document) (s : Store) : (run home config mode doc s).2 = s := by
  cases hplan : plan home config doc with
  | error e => rw [run_of_plan_error hplan]
  | ok g =>
    rw [run_of_plan_ok hplan]
    cases mode with
    | write => exact absurd rfl h
    | check => rfl
    | dryRun => rfl

/-- A run that **fails leaves the store** as it was. -/
theorem store_run_of_error {home : String} {config : Config} {mode : Mode} {doc : Document}
    {s s' : Store} {e : Error} (h : run home config mode doc s = (.error e, s')) : s' = s := by
  by_cases hmode : mode = .write
  · subst hmode
    cases hplan : plan home config doc with
    | error e' =>
      rw [run_of_plan_error hplan] at h
      exact (Prod.mk.inj h).2.symm
    | ok g =>
      rw [run_of_plan_ok hplan, deliver] at h
      obtain ⟨hresult, rfl⟩ := Prod.mk.inj h
      cases hwrite : (Output.write s g.path g.source).1 with
      | error e' => exact (Output.write_eq_error_inv (Prod.ext hwrite rfl)).2
      | ok _ =>
        rw [hwrite] at hresult
        cases hresult
  · rw [← store_run_of_ne_write hmode home config doc s, h]

/-- A run that succeeds gives **what was planned**. -/
theorem result_run_of_plan_ok {home : String} {config : Config} {doc : Document} {g g' : Generated}
    (h : plan home config doc = .ok g) {mode : Mode} {s : Store}
    (hrun : (run home config mode doc s).1 = .ok g') : g' = g := by
  rw [run_of_plan_ok h] at hrun
  obtain ⟨_, -, hg⟩ := map_eq_ok_iff.1 hrun
  exact hg.symm

/-- A run that succeeds has a plan. -/
theorem plan_of_run_eq_ok {home : String} {config : Config} {doc : Document} {g : Generated}
    {mode : Mode} {s : Store} (h : (run home config mode doc s).1 = .ok g) :
    plan home config doc = .ok g := by
  cases hplan : plan home config doc with
  | error e =>
    rw [run_of_plan_error hplan] at h
    cases h
  | ok g' => rw [result_run_of_plan_ok hplan h]

/-- A run that checks **succeeds exactly if the destination holds the source**. -/
theorem run_check_eq_ok_iff {home : String} {config : Config} {doc : Document} {g : Generated}
    (h : plan home config doc = .ok g) (s : Store) :
    (run home config .check doc s).1 = .ok g ↔
      s.read g.path = .ok (Utf8.encode g.source.toList) := by
  rw [run_of_plan_ok h, map_eq_ok_iff, ← Output.check_eq_ok_iff, deliver]
  refine ⟨?_, fun hcheck => ⟨(), hcheck, rfl⟩⟩
  rintro ⟨_, hcheck, -⟩
  exact hcheck

/-- A run that writes **succeeds exactly if the source can be written** to the destination. -/
theorem run_write_eq_ok_iff {home : String} {config : Config} {doc : Document} {g : Generated}
    (h : plan home config doc = .ok g) (s : Store) :
    (run home config .write doc s).1 = .ok g ↔ (Output.write s g.path g.source).1 = .ok () := by
  rw [run_of_plan_ok h, map_eq_ok_iff, deliver]
  refine ⟨?_, fun hwrite => ⟨(), hwrite, rfl⟩⟩
  rintro ⟨_, hwrite, -⟩
  exact hwrite

/-- A run that writes and succeeds has written the source to the destination. -/
theorem write_of_run {home : String} {config : Config} {doc : Document} {g g' : Generated}
    (h : plan home config doc = .ok g) {s s' : Store}
    (hrun : run home config .write doc s = (.ok g', s')) :
    Output.write s g.path g.source = (.ok (), s') := by
  rw [run_of_plan_ok h, deliver] at hrun
  obtain ⟨hresult, rfl⟩ := Prod.mk.inj hrun
  obtain ⟨_, hwrite, -⟩ := map_eq_ok_iff.1 hresult
  exact Prod.ext hwrite rfl

/-- Such a run **replaces the file at the destination**. -/
theorem replaces_of_run_write {home : String} {config : Config} {doc : Document} {g g' : Generated}
    (h : plan home config doc = .ok g) {s s' : Store}
    (hrun : run home config .write doc s = (.ok g', s')) :
    s.Replaces s' g.path (Utf8.encode g.source.toList) :=
  Output.replaces_of_write (write_of_run h hrun)

/-- **The three modes agree**, and only a write that succeeds changes the store. If there are no
handlers, no trait or no formatted source, the first of these is the error of every mode, whatever
the store. Otherwise every mode that succeeds gives the same path, source and number of handlers;
a write leaves the source at the path and changes no other place, and a check that follows it
succeeds; and a check succeeds exactly in the stores that hold the source at the path. -/
theorem modes_agree (home : String) (config : Config) (doc : Document) :
    (∀ s, (run home config .dryRun doc s).2 = s ∧ (run home config .check doc s).2 = s) ∧
    (∀ s s' e, run home config .write doc s = (.error e, s') → s' = s) ∧
    (∀ cause, Handler.enumerate doc = .error cause →
      ∀ mode s, run home config mode doc s = (.error (.decode cause), s)) ∧
    (∀ handlers, Handler.enumerate doc = .ok handlers →
      (∀ e, config.validate = .error e → ∀ mode s, run home config mode doc s = (.error e, s)) ∧
      (config.validate = .ok () →
        (∀ e, Source.format (Template.render (.ofConfig config) handlers) = .error e →
          ∀ mode s, run home config mode doc s = (.error e, s)) ∧
        ∀ source, Source.format (Template.render (.ofConfig config) handlers) = .ok source →
          (∀ s, (run home config .dryRun doc s).1 =
            .ok ⟨config.resolveOutput home, source, handlers.length⟩) ∧
          (∀ mode s g, (run home config mode doc s).1 = .ok g →
            g = ⟨config.resolveOutput home, source, handlers.length⟩) ∧
          (∀ s s' g, run home config .write doc s = (.ok g, s') →
            (∃ place, s'.locate (config.resolveOutput home) = .ok place ∧
              s'.find? place = some (.file 0o644 (Utf8.encode source.toList)) ∧
              ∀ p, p ≠ place → s'.find? p = s.find? p) ∧
            run home config .check doc s' = (.ok g, s')) ∧
          ∀ s, (∃ g, (run home config .check doc s).1 = .ok g) ↔
            s.read (config.resolveOutput home) = .ok (Utf8.encode source.toList))) := by
  have hdryRun := store_run_of_ne_write (show Mode.dryRun ≠ .write by decide) home config doc
  have hcheckRun := store_run_of_ne_write (show Mode.check ≠ .write by decide) home config doc
  refine ⟨fun s => ⟨hdryRun s, hcheckRun s⟩, fun s s' e => store_run_of_error, ?_, ?_⟩
  · intro cause hcause
    exact run_of_plan_error (by rw [plan_eq, hcause])
  intro handlers hhandlers
  refine ⟨fun e he => run_of_plan_error (by rw [plan_eq, hhandlers]; dsimp only; rw [he]), ?_⟩
  intro hvalid
  refine ⟨fun e he => run_of_plan_error ?_, fun source hsource => ?_⟩
  · rw [plan_eq, hhandlers]
    dsimp only
    rw [hvalid, he]
    rfl
  have hplan : plan home config doc = .ok ⟨config.resolveOutput home, source, handlers.length⟩ :=
    plan_eq_ok hhandlers hvalid hsource
  have hcheck := run_check_eq_ok_iff hplan
  refine ⟨fun s => by rw [run_of_plan_ok hplan]; rfl, fun mode s g => result_run_of_plan_ok hplan,
    fun s s' g hrun => ?_, fun s => ?_⟩
  · have hreplaces := replaces_of_run_write hplan hrun
    obtain rfl := result_run_of_plan_ok hplan (congrArg Prod.fst hrun)
    exact ⟨hreplaces.found, Prod.ext ((hcheck s').2 hreplaces.read_eq_ok) (hcheckRun s')⟩
  · rw [← hcheck s]
    refine ⟨fun ⟨g, hg⟩ => ?_, fun h => ⟨_, h⟩⟩
    rwa [result_run_of_plan_ok hplan hg] at hg

/-- A document without resources, written into a store without entries: the write succeeds, and
the check that follows it finds the source. -/
theorem run_write_empty :
    ∃ g s', run "" { outputPath := some "gen.rs" } .write {} Store.empty = (.ok g, s') ∧
      s'.read "gen.rs" = .ok (Utf8.encode g.source.toList) ∧
      run "" { outputPath := some "gen.rs" } .check {} s' = (.ok g, s') := by
  have hhandlers : Handler.enumerate {} = .ok [] :=
    Handler.enumerate_eq_ok_iff.2 ⟨nofun, .nil, .nil⟩
  have hvalid : Config.validate { outputPath := some "gen.rs" } = .ok () := rfl
  have hpath : Text.trimmed (Config.handlerTrait { outputPath := some "gen.rs" }) =
      String.ofList Emit.usualPath.spelling := by decide
  obtain ⟨source, hsource⟩ : ∃ source, Source.format (Template.render
      (.ofConfig { outputPath := some "gen.rs" }) []) = .ok source :=
    ⟨_, Emit.format_template hpath (List.forall_mem_nil _)⟩
  obtain ⟨g, hplan, hgen⟩ : ∃ g, plan "" { outputPath := some "gen.rs" } {} = .ok g ∧
      g.path = "gen.rs" :=
    ⟨_, plan_eq_ok hhandlers hvalid hsource, rfl⟩
  have hwrite : (Output.write Store.empty g.path g.source).1 = .ok () := by
    rw [hgen]
    rfl
  have hrun : (run "" { outputPath := some "gen.rs" } .write {} Store.empty).1 = .ok g :=
    (run_write_eq_ok_iff hplan _).2 hwrite
  obtain ⟨-, -, -, hstages⟩ := modes_agree "" { outputPath := some "gen.rs" } {}
  obtain ⟨-, hresult, hafter, hcheck⟩ := ((hstages [] hhandlers).2 hvalid).2 _ hsource
  have hchecked := (hafter Store.empty _ g (Prod.ext hrun rfl)).2
  refine ⟨g, _, Prod.ext hrun rfl, ?_, hchecked⟩
  rw [hresult .write Store.empty g hrun]
  exact (hcheck _).1 ⟨g, congrArg Prod.fst hchecked⟩

end Scaffold.Generated
