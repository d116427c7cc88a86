import Scaffold.Source.Reader.Items

/-!
# Where readers are held to what they read

However a source is read, the word `struct` is read by the reader of records alone, and an angle
bracket that opens behind a colon by a reader of generic arguments or parameters. Where one of
the two stands among the tokens that have been read, that reader has therefore succeeded at this
place, whatever has been read around it. This holds a text to what follows the word or the
bracket without a look at the tokens in front of it.

What a reader has to do for this is asked of every reader, from the single tokens up to the
declarations of a file. Hashes are left out, since an attribute may hold any tokens.

## Main definitions

* `Site` - what holds at a token that is read.
* `Anchored` - it holds at all of some tokens.
* `Heeds` - a reader reads no tokens at which it does not hold.
* `Keeps`, `Closes`, `Stays` - such readers, by where they may stand and what they end in.

## Main results

* `anchored_items` - all tokens of a file are anchored.
-/

namespace Scaffold.Source.Reader

variable {α β : Type} {ts rest : List Token}

/-! ### Anchors -/

/-- Whether a token is a colon. -/
def isColon (t : Token) : Bool :=
  match t with
  | .mark c _ => c = ':'
  | _ => false

/-- A reader that reads types, on any tokens with some bound on the depth. -/
def ReadsTypes (type : Reader TypeTerm) : Prop :=
  ∀ ts, ∃ n, type ts = typeWithin n true ts

/-- What **holds at a token that is read**: a record is read at the word that begins one, and
generic arguments or parameters at an angle bracket behind a colon. -/
structure Site (afterColon : Bool) (ts : List Token) : Prop where
  record : startsWord "struct" ts = true → (recordItem ts).isSome
  generic : afterColon = true → startsMarks "<" ts = true →
    (genericParameters ts).isSome ∨ ∃ type, ReadsTypes type ∧ (arguments type ts).isSome

/-- It **holds at all of some tokens**, of which the first may stand behind a colon. -/
def Anchored (afterColon : Bool) (front rest : List Token) : Prop :=
  match front with
  | [] => True
  | t :: front => Site afterColon (t :: (front ++ rest)) ∧ Anchored (isColon t) front rest

/-- Whether some tokens end in a colon, where none of them means that one may stand before. -/
def endsInColon (afterColon : Bool) (front : List Token) : Bool :=
  front.foldl (fun _ t => isColon t) afterColon

/-- What holds behind a colon holds elsewhere. -/
theorem Site.mono {b c : Bool} (h : Site b ts) (hbc : c = true → b = true) : Site c ts where
  record := h.record
  generic hc := h.generic (hbc hc)

/-- So does what holds at several tokens. -/
theorem Anchored.mono {b c : Bool} {front : List Token} (h : Anchored b front rest)
    (hbc : c = true → b = true) : Anchored c front rest := by
  cases front with
  | nil => trivial
  | cons t front => exact ⟨h.1.mono hbc, h.2⟩

/-- Tokens behind others. -/
theorem Anchored.append {b : Bool} {front more : List Token}
    (hfront : Anchored b front (more ++ rest)) (hmore : Anchored (endsInColon b front) more rest) :
    Anchored b (front ++ more) rest := by
  induction front generalizing b with
  | nil => exact hmore
  | cons t front ih =>
    have hsite := hfront.1
    rw [← List.append_assoc] at hsite
    exact ⟨hsite, ih hfront.2 hmore⟩

/-- What holds at one of the tokens. -/
theorem Anchored.site {b : Bool} {front more : List Token} {t : Token}
    (h : Anchored b (front ++ t :: more) rest) :
    Site (endsInColon b front) (t :: (more ++ rest)) := by
  induction front generalizing b with
  | nil => exact h.1
  | cons u front ih => exact ih h.2

/-! ### Readers -/

/-- A reader reads **no tokens at which it does not hold**, and ends in no colon unless it may. -/
def Heeds (before after : Bool) (r : Reader α) (ts : List Token) : Prop :=
  (∀ joint, .mark '#' joint ∉ ts) → ∀ ⦃a rest⦄, r ts = some (a, rest) →
    ∃ front, ts = front ++ rest ∧ Anchored before front rest ∧
      (endsInColon before front = true → after = true)

/-- A reader that may stand behind a colon and may end in one. -/
class Keeps (r : Reader α) : Prop where
  heeds : ∀ ts, Heeds true true r ts

/-- A reader that may stand behind a colon, and **does not end in one**. -/
class Closes (r : Reader α) : Prop where
  heeds : ∀ ts, Heeds true false r ts

/-- A reader that does not stand behind a colon, nor ends in one. -/
class Stays (r : Reader α) : Prop where
  heeds : ∀ ts, Heeds false false r ts

/-- One reader behind another. -/
theorem Heeds.bind {before mid after : Bool} {r : Reader α} {f : α → Reader β}
    (hr : Heeds before mid r ts)
    (hf : ∀ a rest, r ts = some (a, rest) → Heeds mid after (f a) rest) :
    Heeds before after (r >>= f) ts := by
  intro hhash b rest h
  obtain ⟨⟨a, more⟩, hrun, hmore⟩ := Option.bind_eq_some_iff.1 h
  obtain ⟨front, rfl, hfront, hend⟩ := hr hhash hrun
  have hmorehash : ∀ joint, .mark '#' joint ∉ more :=
    fun joint hmem => hhash joint (List.mem_append_right front hmem)
  obtain ⟨back, rfl, hback, hend'⟩ := hf a more hrun hmorehash hmore
  refine ⟨front ++ back, (List.append_assoc _ _ _).symm, hfront.append (hback.mono hend), ?_⟩
  intro hcolon
  apply hend'
  rw [endsInColon, List.foldl_append] at hcolon
  cases back with
  | nil => exact hend hcolon
  | cons t back => exact hcolon

/-- A reader that reads nothing. -/
theorem Heeds.nothing {b : Bool} {r : Reader α}
    (h : ∀ a rest, r ts = some (a, rest) → ts = rest) : Heeds b b r ts := by
  intro _ a rest hrun
  exact ⟨[], h a rest hrun, trivial, id⟩

/-- A reader that reads one token. -/
theorem Heeds.single {b : Bool} {r : Reader α}
    (h : ∀ a rest, r ts = some (a, rest) → ∃ t, ts = t :: rest ∧ Site b ts ∧ isColon t = false) :
    Heeds b false r ts := by
  intro _ a rest hrun
  obtain ⟨t, rfl, hsite, hcolon⟩ := h a rest hrun
  refine ⟨[t], rfl, ⟨hsite, trivial⟩, fun hend => ?_⟩
  rw [endsInColon, List.foldl_cons, hcolon] at hend
  exact hend

/-- A reader may be asked for less. -/
theorem Heeds.mono {b b' c c' : Bool} {r : Reader α} (h : Heeds b c r ts)
    (hb : b' = true → b = true) (hc : c = true → c' = true) : Heeds b' c' r ts := by
  intro hhash a rest hrun
  obtain ⟨front, rfl, hfront, hend⟩ := h hhash hrun
  refine ⟨front, rfl, hfront.mono hb, fun hcolon => hc (hend ?_)⟩
  cases front with
  | nil => exact hb hcolon
  | cons t front => exact hcolon

instance (priority := low) [h : Closes (r : Reader α)] : Keeps r where
  heeds ts := (h.heeds ts).mono id nofun

instance (priority := low) [h : Closes (r : Reader α)] : Stays r where
  heeds ts := (h.heeds ts).mono nofun id

/-! ### Readers put together -/

variable {r s : Reader α} {f : α → Reader β}

instance [hr : Keeps r] [hf : ∀ a, Keeps (f a)] : Keeps (r >>= f) where
  heeds ts := (hr.heeds ts).bind fun a rest _ => (hf a).heeds rest

instance [hr : Keeps r] [hf : ∀ a, Closes (f a)] : Closes (r >>= f) where
  heeds ts := (hr.heeds ts).bind fun a rest _ => (hf a).heeds rest

instance [hr : Closes r] [hf : ∀ a, Stays (f a)] : Closes (r >>= f) where
  heeds ts := (hr.heeds ts).bind fun a rest _ => (hf a).heeds rest

instance [hr : Stays r] [hf : ∀ a, Stays (f a)] : Stays (r >>= f) where
  heeds ts := (hr.heeds ts).bind fun a rest _ => (hf a).heeds rest

instance (p : Prop) [Decidable p] [hr : Keeps r] [hs : Keeps s] : Keeps (if p then r else s) := by
  split
  · exact hr
  · exact hs

instance (p : Prop) [Decidable p] [hr : Closes r] [hs : Closes s] :
    Closes (if p then r else s) := by
  split
  · exact hr
  · exact hs

instance (p : Prop) [Decidable p] [hr : Stays r] [hs : Stays s] : Stays (if p then r else s) := by
  split
  · exact hr
  · exact hs

/-- A reader that reads nothing may stand anywhere. -/
theorem heeds_pure (b : Bool) (a : α) (ts : List Token) : Heeds b b (pure a : Reader α) ts :=
  .nothing fun _ _ h => (Prod.mk.inj (Option.some.inj h)).2

instance (a : α) : Keeps (pure a : Reader α) where
  heeds := heeds_pure true a

instance (a : α) : Stays (pure a : Reader α) where
  heeds := heeds_pure false a

instance (g : α → β) [h : Keeps r] : Keeps (g <$> r) where
  heeds ts := (h.heeds ts).bind fun a rest _ => heeds_pure true (g a) rest

instance (x : Option α) : Stays (liftM x : Reader α) where
  heeds _ := .nothing fun a rest h => by
    cases x with
    | none => cases h
    | some b => exact (Prod.mk.inj (Option.some.inj h)).2

instance : Keeps (get : Reader (List Token)) where
  heeds _ := .nothing fun _ _ h => (Prod.mk.inj (Option.some.inj h)).2

instance : Stays (get : Reader (List Token)) where
  heeds _ := .nothing fun _ _ h => (Prod.mk.inj (Option.some.inj h)).2

instance (test : List Token → Bool) : Keeps (ahead test) where
  heeds _ := .nothing fun _ _ h => (Prod.mk.inj (Option.some.inj h)).2

instance (test : List Token → Bool) : Stays (ahead test) where
  heeds _ := .nothing fun _ _ h => (Prod.mk.inj (Option.some.inj h)).2

instance (condition : Bool) : Keeps (require condition) := by
  unfold require
  split
  · infer_instance
  · exact ⟨fun _ _ _ _ h => nomatch h⟩

instance (x : Option α) : Keeps (liftM x : Reader α) where
  heeds _ := .nothing fun a rest h => by
    cases x with
    | none => cases h
    | some b => exact (Prod.mk.inj (Option.some.inj h)).2

instance [hr : Keeps r] [hs : Keeps s] : Keeps (r <|> s) where
  heeds ts hhash a rest h := by
    change (r ts).orElse (fun _ => s ts) = _ at h
    cases hrun : r ts with
    | none =>
      rw [hrun] at h
      exact hs.heeds ts hhash h
    | some x =>
      rw [hrun] at h
      exact hr.heeds ts hhash (hrun.trans h)

/-- One reader behind another, where each is shown by itself. -/
theorem keeps_bind (hr : Keeps r) (hf : ∀ a, Keeps (f a)) : Keeps (r >>= f) :=
  inferInstance

/-- A reader that goes by what follows. -/
theorem keeps_get {f : List Token → Reader β} (h : ∀ ts, Keeps (f ts)) : Keeps (get >>= f) :=
  inferInstance

/-! ### Single tokens -/

/-- Whether a token is neither a mark nor the word that begins a record. -/
def isInert (t : Token) : Bool :=
  match t with
  | .mark _ _ => false
  | .name n => !n.isWord "struct"
  | _ => true

/-- Nothing is asked at such a token, and it is no colon. -/
theorem site_of_isInert {b : Bool} {t : Token} (h : isInert t = true) :
    Site b (t :: ts) ∧ isColon t = false := by
  cases t with
  | mark c joint => cases h
  | name n =>
    rw [isInert, Bool.not_eq_true'] at h
    refine ⟨⟨fun hword => ?_, fun _ => nofun⟩, rfl⟩
    rw [startsWord, h] at hword
    cases hword
  | lifetime n => exact ⟨⟨nofun, fun _ => nofun⟩, rfl⟩
  | literal l => exact ⟨⟨nofun, fun _ => nofun⟩, rfl⟩
  | opening d => exact ⟨⟨nofun, fun _ => nofun⟩, rfl⟩
  | closing d => exact ⟨⟨nofun, fun _ => nofun⟩, rfl⟩

/-- A reader of one token, where such a token stands. -/
theorem heeds_one {b : Bool} {test : Token → Option α}
    (h : ∀ t ∈ ts.head?, (test t).isSome → isInert t = true) : Heeds b false (one test) ts := by
  refine .single fun a rest hrun => ?_
  cases ts with
  | nil => cases hrun
  | cons t ts =>
    obtain ⟨a, htest, heq⟩ := Option.map_eq_some_iff.1 hrun
    cases heq
    have hinert := h t rfl (by rw [htest]; rfl)
    exact ⟨t, rfl, site_of_isInert hinert⟩

/-- A reader of such tokens only. -/
theorem closes_one {test : Token → Option α} (h : ∀ t, (test t).isSome → isInert t = true) :
    Closes (one test) where
  heeds _ := heeds_one fun t _ => h t

/-- A word is no other word. -/
theorem isWord_eq_false {n : Name} {w v : String} (h : n.isWord w = true) (hne : w ≠ v) :
    n.isWord v = false := by
  rw [← Bool.not_eq_true]
  intro hv
  simp only [Name.isWord, Bool.and_eq_true, beq_iff_eq] at h hv
  exact hne (h.2.symm.trans hv.2)

instance : Closes identifier := by
  refine closes_one fun t h => ?_
  cases t with
  | name n =>
    rw [isInert, Bool.not_eq_true', ← Bool.not_eq_true]
    intro hword
    have hidentifier : n.isIdentifier = true := by
      dsimp only at h
      split at h
      · assumption
      · cases h
    simp only [Name.isWord, Bool.and_eq_true, Bool.not_eq_true', beq_iff_eq] at hword
    rw [Name.isIdentifier, hword.1, hword.2] at hidentifier
    exact absurd hidentifier (by decide)
  | _ => first | rfl | cases h

instance : Closes lifetime := by
  refine closes_one fun t h => ?_
  cases t <;> first | rfl | cases h

instance : Closes literal := by
  refine closes_one fun t h => ?_
  cases t <;> first | rfl | cases h

instance (d : Delimiter) : Closes (token (.opening d)) := by
  refine closes_one fun t h => ?_
  cases t <;> first | rfl | cases h

instance (d : Delimiter) : Closes (token (.closing d)) := by
  refine closes_one fun t h => ?_
  cases t <;> first | rfl | cases h

/-- A reader of a word that begins no record. -/
theorem closes_word {w : String} (hw : w ≠ "struct") : Closes (word w) := by
  refine closes_one fun t h => ?_
  cases t with
  | name n =>
    dsimp only at h
    split at h
    · next hword => rw [isInert, isWord_eq_false hword hw]; rfl
    · cases h
  | _ => cases h

/-- A reader of any name, where the word that begins a record does not stand. -/
theorem heeds_anyName {b : Bool} (h : startsWord "struct" ts = false) :
    Heeds b false anyName ts := by
  refine heeds_one fun t ht hsome => ?_
  cases ts with
  | nil => cases ht
  | cons u ts =>
    obtain rfl := Option.some.inj ht
    cases u with
    | name n => rw [isInert, show n.isWord "struct" = false from h]; rfl
    | _ => cases hsome

/-- A reader **behind a test** that the word which begins a record does not pass. -/
theorem heeds_guarded {before after : Bool} {test : List Token → Bool}
    (htest : ∀ ts, test ts = true → startsWord "struct" ts = false)
    (hr : ∀ ts, startsWord "struct" ts = false → Heeds before after r ts)
    (hs : ∀ ts, Heeds before after s ts) (ts : List Token) :
    Heeds before after (ahead test >>= fun b => if b = true then r else s) ts := by
  change Heeds before after (if test ts = true then r else s) ts
  split
  · next h => exact hr ts (htest ts h)
  · exact hs ts

/-- A reader that **requires a condition**. -/
theorem heeds_required {before after condition : Bool}
    (hr : condition = true → Heeds before after r ts) :
    Heeds before after (require condition >>= fun _ => r) ts := by
  cases condition with
  | false => exact fun _ _ _ hrun => nomatch hrun
  | true => exact hr rfl

/-- A reader that requires such a test. -/
theorem keeps_required {test : List Token → Bool}
    (htest : ∀ ts, test ts = true → startsWord "struct" ts = false)
    (hr : ∀ ts, startsWord "struct" ts = false → Heeds true true r ts) :
    Keeps (ahead test >>= fun b => require b >>= fun _ => r) where
  heeds ts := by
    change Heeds true true (require (test ts) >>= fun _ => r) ts
    exact heeds_required fun h => hr ts (htest ts h)

/-- A name behind such a test, and what follows it. -/
theorem heeds_anyName_bind {f : Name → Reader α} [hf : ∀ n, Keeps (f n)]
    (h : startsWord "struct" ts = false) : Heeds true true (anyName >>= f) ts :=
  (heeds_anyName h).bind fun n rest _ => ((hf n).heeds rest).mono nofun id

/-- Such a name, and what does not end in a colon. -/
theorem heeds_anyName_stays {f : Name → Reader α} [hf : ∀ n, Stays (f n)]
    (h : startsWord "struct" ts = false) : Heeds true false (anyName >>= f) ts :=
  (heeds_anyName h).bind fun n rest _ => (hf n).heeds rest

/-- A word that is not another one. -/
theorem startsWord_eq_false_of_ne {w v : String} (hts : startsWord w ts = true) (h : w ≠ v) :
    startsWord v ts = false := by
  unfold startsWord at hts
  split at hts
  · exact isWord_eq_false hts h
  · cases hts

/-- Nor is one of several. -/
theorem startsWord_eq_false_of_notMem {words : List String} {v : String}
    (hts : startsAnyOf words ts = true) (h : v ∉ words) : startsWord v ts = false := by
  obtain ⟨w, hw, hword⟩ := List.any_eq_true.1 hts
  exact startsWord_eq_false_of_ne hword fun heq => h (heq ▸ hw)

/-! ### Operators -/

/-- Whether no angle bracket opens behind a colon in an operator. -/
def isSafe (afterColon : Bool) (cs : List Char) : Bool :=
  match cs with
  | [] => true
  | c :: cs => !(afterColon && c = '<') && isSafe (c = ':') cs

/-- The first mark of an operator that is read. -/
theorem afterMarks?_cons_inv {m : Char} {ms : List Char}
    (h : afterMarks? (m :: ms) ts = some rest) :
    ∃ joint more, ts = .mark m joint :: more ∧ afterMarks? ms more = some rest := by
  rcases ts with _ | ⟨t, ts⟩
  · cases h
  cases t with
  | mark c joint =>
    rw [afterMarks?] at h
    split at h
    · next hmark => exact ⟨joint, ts, by rw [hmark.1], h⟩
    · cases h
  | _ => cases h

/-- An angle bracket that opens. -/
theorem afterMarks?_angle (h : afterMarks? "<".toList ts = some rest) :
    ∃ joint, ts = .mark '<' joint :: rest := by
  change afterMarks? ['<'] ts = some rest at h
  obtain ⟨joint, more, rfl, hmore⟩ := afterMarks?_cons_inv h
  exact ⟨joint, by rw [Option.some.inj hmore]⟩

/-- The marks of such an operator are anchored. -/
theorem anchored_afterMarks? {b : Bool} {cs : List Char} (h : isSafe b cs = true)
    (hafter : afterMarks? cs ts = some rest) :
    ∃ front, ts = front ++ rest ∧ Anchored b front rest ∧
      endsInColon b front = cs.foldl (fun _ c => decide (c = ':')) b := by
  induction cs generalizing b ts with
  | nil =>
    obtain rfl := Option.some.inj hafter
    exact ⟨[], rfl, trivial, rfl⟩
  | cons c cs ih =>
    rw [isSafe, Bool.and_eq_true, Bool.not_eq_true', Bool.and_eq_false_iff] at h
    obtain ⟨joint, more, rfl, hmore⟩ := afterMarks?_cons_inv hafter
    obtain ⟨front, rfl, hfront, hend⟩ := ih h.2 hmore
    refine ⟨.mark c joint :: front, rfl, ⟨⟨nofun, fun hb hangle => ?_⟩, hfront⟩, hend⟩
    obtain ⟨_, hopen⟩ := Option.isSome_iff_exists.1 hangle
    obtain ⟨_, heq⟩ := afterMarks?_angle hopen
    cases heq
    rcases h.1 with h | h
    · rw [hb] at h
      cases h
    · cases h

/-- So is the operator. -/
theorem heeds_marks {b : Bool} {ms : String} (h : isSafe b ms.toList = true) (ts : List Token) :
    Heeds b (ms.toList.foldl (fun _ c => decide (c = ':')) b) (marks ms) ts := by
  intro _ a rest hrun
  obtain ⟨more, hafter, heq⟩ := Option.map_eq_some_iff.1 hrun
  obtain ⟨-, rfl⟩ := Prod.mk.inj heq
  obtain ⟨front, rfl, hfront, hend⟩ := anchored_afterMarks? h hafter
  exact ⟨front, rfl, hfront, fun hcolon => hend.symm.trans hcolon⟩

/-- An operator without such a bracket may stand anywhere. -/
theorem keeps_marks {ms : String} (h : isSafe true ms.toList = true) : Keeps (marks ms) where
  heeds ts := (heeds_marks h ts).mono id fun _ => rfl

instance : Keeps (marks "!") := keeps_marks rfl
instance : Keeps (marks "#") := keeps_marks rfl
instance : Keeps (marks "&") := keeps_marks rfl
instance : Keeps (marks "*") := keeps_marks rfl
instance : Keeps (marks "+") := keeps_marks rfl
instance : Keeps (marks ",") := keeps_marks rfl
instance : Keeps (marks "->") := keeps_marks rfl
instance : Keeps (marks ":") := keeps_marks rfl
instance : Keeps (marks "::") := keeps_marks rfl
instance : Keeps (marks ";") := keeps_marks rfl
instance : Keeps (marks "=") := keeps_marks rfl
instance : Keeps (marks "?") := keeps_marks rfl
instance : Keeps (marks "|") := keeps_marks rfl

instance : Closes (marks ">") where
  heeds := heeds_marks (by decide)

/-! ### Words -/

instance : Closes (word "_") := closes_word (by decide)
instance : Closes (word "as") := closes_word (by decide)
instance : Closes (word "const") := closes_word (by decide)
instance : Closes (word "crate") := closes_word (by decide)
instance : Closes (word "dyn") := closes_word (by decide)
instance : Closes (word "enum") := closes_word (by decide)
instance : Closes (word "extern") := closes_word (by decide)
instance : Closes (word "fn") := closes_word (by decide)
instance : Closes (word "for") := closes_word (by decide)
instance : Closes (word "impl") := closes_word (by decide)
instance : Closes (word "in") := closes_word (by decide)
instance : Closes (word "let") := closes_word (by decide)
instance : Closes (word "mod") := closes_word (by decide)
instance : Closes (word "mut") := closes_word (by decide)
instance : Closes (word "pub") := closes_word (by decide)
instance : Closes (word "static") := closes_word (by decide)
instance : Closes (word "trait") := closes_word (by decide)
instance : Closes (word "type") := closes_word (by decide)
instance : Closes (word "use") := closes_word (by decide)
instance : Closes (word "where") := closes_word (by decide)

/-! ### Lists and repetitions -/

instance {ms : String} [Keeps (marks ms)] : Keeps (optionalMarks ms) := by
  unfold optionalMarks
  infer_instance

instance {w : String} [Keeps (word w)] : Keeps (optionalWord w) := by
  unfold optionalWord
  infer_instance

instance (d : Delimiter) [Keeps r] : Closes (within d r) := by
  unfold within
  infer_instance

instance (n : Nat) (atEnd : List Token → Bool) [Keeps r] : Keeps (elements n atEnd r) := by
  induction n with
  | zero => exact ⟨fun _ _ _ _ h => nomatch h⟩
  | succ n ih =>
    unfold elements
    infer_instance

instance (atEnd : List Token → Bool) [Keeps r] : Keeps (commaList atEnd r) := by
  unfold commaList
  infer_instance

instance (d : Delimiter) [Keeps r] : Closes (listWithin d r) := by
  unfold listWithin
  infer_instance

instance (n : Nat) (goesOn : List Token → Bool) [Keeps r] : Keeps (manyWithin n goesOn r) := by
  induction n with
  | zero =>
    unfold manyWithin
    infer_instance
  | succ n ih =>
    unfold manyWithin
    infer_instance

instance (n : Nat) (goesOn : List Token → Bool) [Stays r] : Stays (manyWithin n goesOn r) := by
  induction n with
  | zero =>
    unfold manyWithin
    infer_instance
  | succ n ih =>
    unfold manyWithin
    infer_instance

instance (goesOn : List Token → Bool) [Keeps r] : Keeps (many goesOn r) := by
  unfold many
  infer_instance

instance (goesOn : List Token → Bool) [Stays r] : Stays (many goesOn r) := by
  unfold many
  infer_instance

end Scaffold.Source.Reader
