import Scaffold.Proofs.Yaml.Character

/-!
# Plain scalars read back

A text that may be written in plain style is read back with the end of its line, up to the next
line that begins further left than the scalar may go on. The reader keeps the spaces in front of
a word until the word comes; the text holds no mark that would end the scalar there.

## Main results

* `Plain.readFrom_append` - the words of a text, behind spaces.
* `Plain.read_append` - a text in plain style.
* `Plain.read_name` - a name in front of a colon.
-/

namespace Scaffold.Yaml.Plain

variable {indent : Nat} {c : Char} {cs more blanks : List Char}

/-! ### One character -/

/-- A space is kept until the word behind it comes. -/
theorem readFrom_space (inFlow : Bool) (blanks cs : List Char) :
    readFrom inFlow indent (.blanks blanks) (' ' :: cs) =
      readFrom inFlow indent (.blanks (blanks ++ [' '])) cs :=
  rfl

/-- A **character of a word** is read with the spaces in front of it, if it ends the scalar neither
as a colon nor as the mark of a comment. -/
theorem readFrom_char (hbreak : isBreak c = false) (hgap : isGap c = false)
    (hcolon : (c = ':' && endsWord cs) = false) (hcomment : blanks ≠ [] → c ≠ '#') :
    readFrom false indent (.blanks blanks) (c :: cs) =
      (readFrom false indent .none cs).map (·.behind (blanks ++ [c])) := by
  have hend : (!(Gap.blanks blanks).isNone && endsBehind false indent (.blanks blanks) (c :: cs)) =
      false := by
    cases blanks with
    | nil => rfl
    | cons b blanks =>
      have hc := hcomment (List.cons_ne_nil _ _)
      simp [endsBehind, hc, Gap.atLineStart, Gap.leftOf]
  rw [readFrom, hbreak, hgap, hend, isEnd, hcolon]
  rfl

/-- A scalar **ends behind its line** if the next one does not reach its column. -/
theorem readFrom_end (hindent : 0 < indent) (hmore : BeginsToken more) :
    readFrom false indent .none ('\n' :: more) = some ⟨[], true, more⟩ := by
  change readFrom false indent (.lines (some '\n') [] 0) more = _
  cases more with
  | nil => rfl
  | cons c more =>
    obtain ⟨hgap, hbreak, -⟩ := hmore c rfl
    have hend : endsBehind false indent (.lines (some '\n') [] 0) (c :: more) = true := by
      simp [endsBehind, Gap.leftOf, hindent]
    rw [readFrom, hbreak, hgap, hend]
    rfl

/-! ### Texts -/

/-- The **words of a text** are read behind the spaces that have been read so far. `before` is what
stands in front of the text. -/
theorem readFrom_append (hindent : 0 < indent) (hmore : BeginsToken more) {before : Char}
    (hbefore : blanks ≠ [] → isGap before = true)
    (hchars : ∀ c ∈ cs, isPlainChar c = true ∧ isBreak c = false)
    (hmarks : hasMarkBehind before cs = false) (hlast : (blanks ++ cs).getLast? ≠ some ' ')
    (hblanks : ∀ c ∈ blanks, c = ' ') :
    readFrom false indent (.blanks blanks) (cs ++ '\n' :: more) =
      some ⟨blanks ++ cs, true, more⟩ := by
  induction cs generalizing before blanks with
  | nil =>
    -- No spaces are left in front of the end of the line.
    rw [List.append_nil] at hlast ⊢
    obtain rfl : blanks = [] := by
      rcases List.eq_nil_or_concat blanks with hnil | ⟨front, b, rfl⟩
      · exact hnil
      · rw [List.concat_eq_append] at hlast hblanks
        rw [List.getLast?_concat, hblanks b (by simp)] at hlast
        exact absurd rfl hlast
    exact readFrom_end hindent hmore
  | cons c cs ih =>
    obtain ⟨⟨hplain, hbreak⟩, hcs⟩ := List.forall_mem_cons.1 hchars
    simp only [hasMarkBehind, Bool.or_eq_false_iff] at hmarks
    obtain ⟨⟨hcolon, hcomment⟩, hmarks⟩ := hmarks
    rw [List.cons_append]
    by_cases hc : c = ' '
    · subst hc
      rw [readFrom_space, ih (fun _ => rfl) hcs hmarks]
      · rw [List.append_assoc, List.singleton_append]
      · rwa [List.append_assoc, List.singleton_append]
      · exact List.forall_mem_append.2 ⟨hblanks, List.forall_mem_singleton.2 rfl⟩
    · have hhash : blanks ≠ [] → c ≠ '#' := by
        rintro hne rfl
        rw [hbefore hne] at hcomment
        cases hcomment
      have hend : ([] ++ cs).getLast? ≠ some ' ' := by
        intro hspace
        rw [List.getLast?_append, List.getLast?_cons, ← List.nil_append cs, hspace] at hlast
        exact hlast rfl
      have hrest : readFrom false indent .none (cs ++ '\n' :: more) = some ⟨cs, true, more⟩ :=
        ih (fun h => absurd rfl h) hcs hmarks hend nofun
      rw [readFrom_char hbreak (isGap_eq_false hplain hc) (by rwa [endsWord_append]) hhash, hrest]
      simp [Reading.behind]

/-- What a text in **plain style** begins with: a character that is no blank and, where it is the
mark of an entry, does not stand alone. -/
theorem head_of_allowsPlain (h : allowsPlain (c :: cs) = true) :
    isPlainChar c = true ∧ isBreak c = false ∧ isGap c = false ∧
      "#,[]\x7b\x7d&*!|>'\"%@`".toList.contains c = false ∧
      ("?:-".toList.contains c = true → endsWord cs = false) := by
  simp only [allowsPlain, Bool.and_eq_true, List.all_cons, List.head?_cons, startsWithMark,
    Bool.not_eq_true', Bool.or_eq_false_iff, decide_eq_true_eq] at h
  obtain ⟨⟨⟨⟨⟨⟨hplain, hbreak⟩, -⟩, hspace⟩, -⟩, ⟨⟨hmark, hentry⟩, -⟩, -⟩, -⟩ := h
  have hne : c ≠ ' ' := fun h => of_decide_eq_true hspace (congrArg some h)
  refine ⟨hplain, hbreak, isGap_eq_false hplain hne, hmark, fun h => ?_⟩
  rwa [h] at hentry

/-- A text in plain style **begins with a token**. -/
theorem beginsToken_append (h : allowsPlain cs = true) (hne : cs ≠ []) (more : List Char) :
    BeginsToken (cs ++ more) := by
  obtain ⟨c, cs, rfl⟩ := List.exists_cons_of_ne_nil hne
  obtain ⟨hplain, hbreak, hgap, hmark, -⟩ := head_of_allowsPlain h
  refine beginsToken_cons.2 ⟨hgap, hbreak, ?_, ne_of_isPlainChar hplain (by decide)⟩
  rintro rfl
  exact absurd hmark (by decide)

/-- The text in plain style holds no mark behind its first character, and no blank ends it. -/
theorem tail_of_allowsPlain (h : allowsPlain (c :: cs) = true) :
    (∀ d ∈ cs, isPlainChar d = true ∧ isBreak d = false) ∧ hasMarkBehind c cs = false ∧
      cs.getLast? ≠ some ' ' := by
  simp only [allowsPlain, Bool.and_eq_true, List.all_cons, List.head?_cons, List.drop_one,
    Bool.not_eq_true', decide_eq_true_eq, List.all_eq_true, Option.any_some, List.tail_cons] at h
  obtain ⟨⟨⟨⟨⟨-, hchars⟩, -⟩, hlast⟩, -⟩, hmarks⟩ := h
  refine ⟨hchars, hmarks, fun hspace => hlast ?_⟩
  rw [List.getLast?_cons, hspace]
  rfl

/-- A **text in plain style** is read back with the end of its line. -/
theorem read_append (hindent : 0 < indent) (hmore : BeginsToken more)
    (hplain : allowsPlain cs = true) (hne : cs ≠ []) :
    read false indent (cs ++ '\n' :: more) = some ⟨cs, true, more⟩ := by
  obtain ⟨c, cs, rfl⟩ := List.exists_cons_of_ne_nil hne
  obtain ⟨-, hbreak, hgap, -, hentry⟩ := head_of_allowsPlain hplain
  obtain ⟨hchars, hmarks, hlast⟩ := tail_of_allowsPlain hplain
  have hcolon : (c = ':' && endsWord (cs ++ '\n' :: more)) = false := by
    rw [endsWord_append]
    by_cases hc : c = ':'
    · rw [hentry (hc ▸ by decide), Bool.and_false]
    · rw [decide_eq_false hc, Bool.false_and]
  have hrest : readFrom false indent .none (cs ++ '\n' :: more) = some ⟨cs, true, more⟩ :=
    readFrom_append hindent hmore (fun h => absurd rfl h) hchars hmarks hlast nofun
  rw [read, Gap.none, List.cons_append, readFrom_char hbreak hgap hcolon (fun h => absurd rfl h),
    hrest]
  rfl

/-- The marks that a plain scalar cannot begin with are those of entries and the others. -/
theorem isIndicator_eq (c : Char) :
    isIndicator c =
      ("?:-".toList.contains c || "#,[]\x7b\x7d&*!|>'\"%@`".toList.contains c) := by
  have hperm : "-?:,[]\x7b\x7d#&*!|>'\"%@`".toList.Perm
      ("?:-".toList ++ "#,[]\x7b\x7d&*!|>'\"%@`".toList) := by decide
  rw [isIndicator, hperm.contains_eq, List.contains_append]

/-- What does not end a word begins with no blank. -/
theorem any_isGap_of_endsWord (h : endsWord cs = false) : cs.head?.any isGap = false := by
  cases cs with
  | nil => rfl
  | cons c cs => exact (Bool.or_eq_false_iff.1 h).1

/-- A plain scalar **can begin** with a text in plain style. -/
theorem starts_append (hplain : allowsPlain cs = true) (hne : cs ≠ []) (more : List Char) :
    starts false (cs ++ '\n' :: more) = true := by
  obtain ⟨c, cs, rfl⟩ := List.exists_cons_of_ne_nil hne
  obtain ⟨-, hbreak, hgap, hmark, hentry⟩ := head_of_allowsPlain hplain
  rw [List.cons_append, starts, endsWord, hbreak, hgap, isIndicator_eq, hmark]
  cases hc : "?:-".toList.contains c with
  | false => rfl
  | true =>
    have hword : endsWord (cs ++ '\n' :: more) = false := (endsWord_append _ _).trans (hentry hc)
    rw [any_isGap_of_endsWord hword, hword]
    obtain rfl | rfl | rfl : c = '?' ∨ c = ':' ∨ c = '-' := by
      simpa using List.contains_iff_mem.1 hc
    all_goals rfl

/-! ### Names -/

/-- The rest of a **name** is read up to the colon behind it. -/
theorem readFrom_name (hname : ∀ c ∈ cs, isKeyChar c = true) (more : List Char) :
    readFrom false indent .none (cs ++ ':' :: ' ' :: more) =
      some ⟨cs, false, ':' :: ' ' :: more⟩ := by
  induction cs with
  | nil => rfl
  | cons c cs ih =>
    obtain ⟨hc, hcs⟩ := List.forall_mem_cons.1 hname
    have hcolon : (c = ':' && endsWord (cs ++ ':' :: ' ' :: more)) = false := by
      rw [decide_eq_false (ne_of_isKeyChar hc (by decide)), Bool.false_and]
    rw [List.cons_append, Gap.none, readFrom_char (isBreak_of_isKeyChar hc)
      (isGap_of_isKeyChar hc) hcolon (fun h => absurd rfl h), ih hcs]
    rfl

/-- A **name** is read up to the colon behind it. -/
theorem read_name (hname : IsKey cs) (more : List Char) :
    read false indent (cs ++ ':' :: ' ' :: more) = some ⟨cs, false, ':' :: ' ' :: more⟩ :=
  readFrom_name hname.chars more

/-- A character of a name is no mark. -/
theorem isIndicator_of_isKeyChar (h : isKeyChar c = true) : isIndicator c = false := by
  have hmarks : "-?:,[]\x7b\x7d#&*!|>'\"%@`".toList.all (!isKeyChar ·) = true := by decide
  refine Bool.eq_false_iff.2 fun hmark => ?_
  have hother := List.all_eq_true.1 hmarks c (List.contains_iff_mem.1 hmark)
  rw [h] at hother
  cases hother

/-- A plain scalar **can begin** with a name. -/
theorem starts_name (hname : IsKey cs) (more : List Char) : starts false (cs ++ more) = true := by
  obtain ⟨c, cs, rfl⟩ := List.exists_cons_of_ne_nil hname.ne_nil
  have hc := hname.chars c List.mem_cons_self
  rw [List.cons_append, starts, endsWord, isBreak_of_isKeyChar hc, isGap_of_isKeyChar hc,
    isIndicator_of_isKeyChar hc]
  rfl

end Scaffold.Yaml.Plain
