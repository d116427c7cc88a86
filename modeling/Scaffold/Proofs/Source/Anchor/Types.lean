import Scaffold.Proofs.Source.Anchor.Basic
import Scaffold.Proofs.Source.Reader

/-!
# Anchors of paths, types and generic declarations
-/

set_option synthInstance.maxSize 400

namespace Scaffold.Source.Reader

variable {ts rest : List Token}

/-! ### Paths -/

instance (type : Reader TypeTerm) [Keeps type] : Keeps (argument type) := by
  refine keeps_get fun ts => ?_
  split <;> infer_instance

/-- What an angle bracket opens may stand behind a colon where it is read as **generic arguments
or parameters**. -/
theorem heeds_angle {α : Type} {after : Bool} {r : Reader α} (hr : ∀ ts, Heeds true after r ts)
    (hsite : ∀ rest, afterMarks? "<".toList ts = some rest → (r rest).isSome →
      (genericParameters ts).isSome ∨ ∃ type, ReadsTypes type ∧ (arguments type ts).isSome) :
    Heeds true after (marks "<" >>= fun _ => r) ts := by
  intro hhash a rest h
  obtain ⟨⟨_, more⟩, hmarks, hrun⟩ := Option.bind_eq_some_iff.1 h
  obtain ⟨more', hafter, heq⟩ := Option.map_eq_some_iff.1 hmarks
  cases heq
  have hgeneric := hsite more hafter (Option.isSome_of_eq_some hrun)
  obtain ⟨joint, rfl⟩ := afterMarks?_angle hafter
  have hmorehash : ∀ joint, .mark '#' joint ∉ more :=
    fun joint hmem => hhash joint (List.mem_cons_of_mem _ hmem)
  obtain ⟨front, rfl, hfront, hend⟩ := hr more hmorehash hrun
  refine ⟨.mark '<' joint :: front, rfl,
    ⟨⟨nofun, fun _ _ => hgeneric⟩, hfront.mono fun _ => rfl⟩, fun hcolon => hend ?_⟩
  cases front with
  | nil => rfl
  | cons t front => exact hcolon

/-- Generic arguments are anchored. -/
theorem closes_arguments {type : Reader TypeTerm} [Keeps type] (htype : ReadsTypes type) :
    Closes (arguments type) where
  heeds ts := by
    have hcolons : Keeps (optionalMarks "::") := inferInstance
    have hrest : Closes (commaList (startsMarks ">") (argument type) >>= fun as =>
      marks ">" >>= fun _ => pure as) := inferInstance
    refine (hcolons.heeds ts).bind fun _ rest _ => heeds_angle hrest.heeds ?_
    intro more hafter hrun
    obtain ⟨joint, rfl⟩ := afterMarks?_angle hafter
    refine .inr ⟨type, htype, ?_⟩
    have hsame : arguments type (.mark '<' joint :: more) = _ :=
      (run_bind (optionalMarks_run rfl)).trans (run_bind (marks_run hafter))
    rw [hsame]
    exact hrun

/-- A name in a path is anchored. -/
theorem closes_segment {type : Reader TypeTerm} [Keeps type] (htype : ReadsTypes type)
    (inExpression : Bool) : Closes (segment inExpression type) where
  heeds := by
    have harguments := closes_arguments htype
    have hself (ts : List Token) (h : startsWord "Self" ts = true) :=
      startsWord_eq_false_of_ne (v := "struct") h (by decide)
    have hwords (ts : List Token) (h : startsAnyOf pathWords ts = true) :=
      startsWord_eq_false_of_notMem (v := "struct") h (by decide)
    unfold segment
    refine heeds_guarded hwords (fun ts h => heeds_anyName_stays h) ?_
    exact heeds_guarded hself (fun ts h => heeds_anyName_stays h) Closes.heeds

/-- So is a **path**. -/
theorem closes_path {type : Reader TypeTerm} [Keeps type] (htype : ReadsTypes type)
    (inExpression : Bool) : Closes (path inExpression type) := by
  have hsegment := closes_segment htype inExpression
  unfold path
  infer_instance

/-! ### Types -/

section

variable {type : Reader TypeTerm} [Keeps type]

/-- A trait as a bound is anchored. -/
theorem keeps_bound (htype : ReadsTypes type) : Keeps (bound type) := by
  have hpath := closes_path htype false
  have htrait (enclosed : Bool) : Keeps (traitBound enclosed type) := by
    unfold traitBound
    infer_instance
  refine keeps_get fun ts => ?_
  split <;> infer_instance

/-- So are several. -/
theorem keeps_moreBounds (htype : ReadsTypes type) : Keeps (moreBounds type) := by
  have hbound := keeps_bound htype
  unfold moreBounds
  infer_instance

instance : Keeps (reference type) := by
  unfold reference
  have hname : Keeps (some <$> lifetime : Reader (Option Name)) := inferInstance
  refine keeps_bind inferInstance fun _ => keeps_get fun ts => ?_
  dsimp only
  split <;> infer_instance

instance : Keeps (pointer type) := by
  unfold pointer
  infer_instance

instance : Keeps (slice type) := by
  unfold slice
  infer_instance

instance : Keeps (tuple type) := by
  unfold tuple
  infer_instance

instance {result : Reader TypeTerm} [Keeps result] : Keeps (functionType type result) := by
  unfold functionType
  infer_instance

/-- What traits a value is known by. -/
theorem keeps_object (htype : ReadsTypes type) (several : Bool) : Keeps (object several type) := by
  have hbound := keeps_bound htype
  have hmore := keeps_moreBounds htype
  unfold object
  infer_instance

/-- A path as a type. -/
theorem keeps_named (htype : ReadsTypes type) (several : Bool) : Keeps (named several type) := by
  have hpath := closes_path htype false
  have hmore := keeps_moreBounds htype
  unfold named
  infer_instance

end

/-- Types of a bounded depth are types. -/
theorem readsTypes_typeWithin (n : Nat) : ReadsTypes (typeWithin n true) :=
  fun _ => ⟨n, rfl⟩

/-- So are all types. -/
theorem readsTypes_typeTerm : ReadsTypes typeTerm :=
  fun ts => ⟨ts.length + 1, rfl⟩

instance (n : Nat) (several : Bool) : Keeps (typeWithin n several) := by
  induction n generalizing several with
  | zero => exact ⟨fun _ _ _ _ h => nomatch h⟩
  | succ n ih =>
    have hobject := keeps_object (readsTypes_typeWithin n) several
    have hnamed := keeps_named (readsTypes_typeWithin n) several
    unfold typeWithin
    infer_instance

instance : Keeps typeTerm := by
  unfold typeTerm
  infer_instance

/-! ### Generic declarations -/

instance : Keeps (bound typeTerm) :=
  keeps_bound readsTypes_typeTerm

instance {α : Type} (atEnd : List Token → Bool) {r : Reader α} [Keeps r] :
    Keeps (boundsUntil atEnd r) := by
  unfold boundsUntil
  infer_instance

instance : Keeps genericParameter := by
  refine keeps_get fun ts => ?_
  split
  · infer_instance
  · dsimp only
    infer_instance

/-- Generic parameters are what an angle bracket opens. -/
theorem genericParameters_eq (h : afterMarks? "<".toList ts = some rest) :
    genericParameters ts = (do
      let ps ← commaList (startsMarks ">") genericParameter
      marks ">"
      return ps : Reader (List GenericParameter)) rest := by
  rw [genericParameters]
  exact run_bind (optionalMarks_present h)

instance : Keeps genericParameters where
  heeds ts := by
    have hrest : Keeps (commaList (startsMarks ">") genericParameter >>= fun ps =>
      marks ">" >>= fun _ => pure ps) := inferInstance
    cases hafter : afterMarks? "<".toList ts with
    | none =>
      have hnothing : genericParameters ts = some ([], ts) := by
        rw [genericParameters]
        exact run_bind (optionalMarks_run (by rw [startsMarks, hafter]; rfl))
      refine .nothing fun ps rest h => ?_
      cases hnothing.symm.trans h
      rfl
    | some more =>
      have hangle := @heeds_angle ts _ _ _ hrest.heeds fun rest hafter hrun => by
        rw [genericParameters_eq hafter]
        exact .inl hrun
      intro hhash ps rest h
      rw [genericParameters_eq hafter] at h
      exact hangle hhash ((run_bind (marks_run hafter)).trans h)

instance : Keeps condition := by
  unfold condition
  infer_instance

instance : Keeps conditions := by
  unfold conditions
  infer_instance

end Scaffold.Source.Reader
