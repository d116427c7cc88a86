import Mathlib.Data.List.DropRight
import Scaffold.Proofs.Yaml.Character

/-!
# Indented lines read back

A text is the lines up to its last word and the line ends behind it. The reader gives the lines
back one by one, each with the line ends that it has kept in front of it. What becomes of the
line ends behind the last word is said in the header, which is chosen for them.

## Main results

* `readFrom_writeLines` - the lines up to the last word.
* `read_writeStyled` - a text as indented lines.
-/

namespace Scaffold.Yaml.Block

variable {c : Char} {cs rest more text ends : List Char} {chomp : Chomp} {p : Pending}

/-! ### Lines -/

/-- The margin is skipped up to the **first character** of a line. -/
theorem readFrom_margin (hbreak : isBreak c = false) (cs : List Char) :
    readFrom false chomp 2 (.margin 0 p) (margin ++ c :: cs) =
      (readFrom false chomp 2 (.line (isGap c)) cs).map fun (text, rest) =>
        (p.lineEnd.toList ++ p.empty ++ c :: text, rest) := by
  change readFrom false chomp 2 (.margin 2 p) (c :: cs) = _
  rw [readFrom, hbreak]
  rfl

/-- A line end in front of a line is **kept** until the line comes. -/
theorem readFrom_margin_break (hbreak : isBreak c = true) (cs : List Char) :
    readFrom false chomp 2 (.margin 0 p) (c :: cs) =
      readFrom false chomp 2 (.margin 0 { p with empty := p.empty ++ [c] }) cs := by
  rw [readFrom, if_pos hbreak]

/-- A character of a line is read as **itself**. -/
theorem readFrom_line (hbreak : isBreak c = false) (startsBlank : Bool) (cs : List Char) :
    readFrom false chomp 2 (.line startsBlank) (c :: cs) =
      (readFrom false chomp 2 (.line startsBlank) cs).map fun (text, rest) =>
        (c :: text, rest) := by
  rw [readFrom, hbreak]
  rfl

/-- The end of a line is **kept** until the next line comes. -/
theorem readFrom_line_break (hbreak : isBreak c = true) (startsBlank : Bool) (cs : List Char) :
    readFrom false chomp 2 (.line startsBlank) (c :: cs) =
      readFrom false chomp 2 (.margin 0 ⟨some c, [], startsBlank⟩) cs := by
  rw [readFrom, if_pos hbreak]

/-- The **lines up to a last word** are read back, in front of them the line ends that have been
kept. What follows the word is read the same way whatever the line of the word began with. -/
theorem readFrom_writeLines
    (hrest : ∀ startsBlank,
      readFrom false chomp 2 (.line startsBlank) rest = some (text, more))
    (hword : ∀ c ∈ cs.getLast?, isBreak c = false) :
    (∀ startsBlank, readFrom false chomp 2 (.line startsBlank) (writeLines false cs ++ rest) =
      some (cs ++ text, more)) ∧
    (cs ≠ [] → ∀ p, readFrom false chomp 2 (.margin 0 p) (writeLines true cs ++ rest) =
      some (p.lineEnd.toList ++ p.empty ++ (cs ++ text), more)) := by
  induction cs with
  | nil => exact ⟨hrest, fun h => absurd rfl h⟩
  | cons c cs ih =>
    cases hc : isBreak c with
    | true =>
      -- The last character is another one, so that a line follows.
      have hne : cs ≠ [] := by
        rintro rfl
        rw [hword c rfl] at hc
        cases hc
      rw [List.getLast?_cons_of_ne_nil hne] at hword
      obtain ⟨-, hmargin⟩ := ih hword
      simp only [writeLines, hc, if_true, List.cons_append]
      refine ⟨fun startsBlank => ?_, fun _ p => ?_⟩
      · rw [readFrom_line_break hc, hmargin hne]
        rfl
      · rw [readFrom_margin_break hc, hmargin hne]
        simp
    | false =>
      have hword : ∀ d ∈ cs.getLast?, isBreak d = false := by
        intro d hd
        refine hword d ?_
        rw [List.getLast?_cons, Option.mem_def.1 hd]
        rfl
      obtain ⟨hline, -⟩ := ih hword
      simp only [writeLines, hc, Bool.false_eq_true, if_false, if_true, List.append_assoc,
        List.cons_append, List.nil_append]
      refine ⟨fun startsBlank => ?_, fun _ p => ?_⟩
      · rw [readFrom_line hc, hline]
        rfl
      · rw [readFrom_margin hc, hline]
        simp

/-- **Line ends** are written as they are. -/
theorem writeLines_append (hends : ∀ c ∈ ends, isBreak c = true) (atStart : Bool) :
    writeLines atStart (cs ++ ends) = writeLines atStart cs ++ ends := by
  induction cs generalizing atStart with
  | nil =>
    induction ends generalizing atStart with
    | nil => rfl
    | cons c ends ih =>
      obtain ⟨hc, hends⟩ := List.forall_mem_cons.1 hends
      change (if isBreak c then _ else _) = _
      rw [if_pos hc]
      exact congrArg (c :: ·) (ih hends true)
  | cons c cs ih =>
    simp only [List.cons_append, writeLines, ih]
    split
    · rfl
    · rw [List.append_assoc, List.cons_append]

/-- The line ends **behind the last word** become what the header says. -/
theorem readFrom_ends (hends : ∀ c ∈ ends, isBreak c = true) (hmore : BeginsToken more) :
    readFrom false chomp 2 (.margin 0 p) (ends ++ more) =
      some (({ p with empty := p.empty ++ ends } : Pending).tail chomp, more) := by
  induction ends generalizing p with
  | nil =>
    rw [List.append_nil, List.nil_append]
    cases more with
    | nil => rfl
    | cons c more =>
      obtain ⟨hgap, hbreak, -⟩ := hmore c rfl
      obtain ⟨hspace, htab⟩ := Bool.or_eq_false_iff.1 hgap
      rw [readFrom, hbreak, if_neg (by simp), if_neg (by simp), if_neg (of_decide_eq_false hspace),
        if_neg (of_decide_eq_false htab)]
  | cons c ends ih =>
    obtain ⟨hc, hends⟩ := List.forall_mem_cons.1 hends
    rw [List.cons_append, readFrom_margin_break hc, ih hends, List.append_assoc,
      List.singleton_append]

/-! ### Headers -/

/-- What is to become of the **last line ends** of a text. -/
def chompOf (cs : List Char) : Chomp :=
  match cs.reverse with
  | c :: rest =>
    if !isBreak c then .strip
    else if rest.head?.all isBreak then .keep
    else .clip
  | [] => .strip

/-- The sign for the last line ends. -/
def Chomp.mark (chomp : Chomp) : List Char :=
  match chomp with
  | .strip => ['-']
  | .clip => []
  | .keep => ['+']

/-- Whether the first line of a text does not show the indentation. -/
def hidesIndent (cs : List Char) : Bool :=
  cs.head?.any fun c => c = ' ' || isBreak c

/-- The last line ends are judged by the **last two characters**. -/
theorem chompOf_concat (cs : List Char) (c : Char) :
    chompOf (cs ++ [c]) =
      if !isBreak c then .strip else if cs.getLast?.all isBreak then .keep else .clip := by
  rw [chompOf, List.reverse_append, List.reverse_singleton, List.singleton_append,
    ← List.head?_reverse]

/-- A header is a mark, the indentation if it has to be said, and a sign. -/
theorem linesHeader_eq (cs : List Char) :
    linesHeader cs =
      '|' :: ((if hidesIndent cs then ['2'] else []) ++ (chompOf cs).mark ++ ['\n']) := by
  unfold linesHeader chompOf hidesIndent
  cases cs.reverse with
  | nil => rfl
  | cons c rest =>
    dsimp only
    cases isBreak c <;> cases rest.head?.all isBreak <;> rfl

/-- The **marks of a header** are read back. -/
theorem readMarks_append (hidden : Bool) (chomp : Chomp) (rest : List Char) :
    readMarks ((if hidden then ['2'] else []) ++ chomp.mark ++ '\n' :: rest) =
      (⟨chomp, if hidden then some 2 else none⟩, '\n' :: rest) := by
  cases hidden <;> cases chomp <;> rfl

/-- The **lines are indented** by two, be it said or shown. -/
theorem column?_writeLines (hplain : ∀ c ∈ cs, isPlainChar c = true) (hne : cs ≠ [])
    (rest : List Char) :
    column? (some 0) (if hidesIndent cs then some 2 else none) (writeLines true cs ++ rest) =
      some 2 := by
  cases hhidden : hidesIndent cs with
  | true => rfl
  | false =>
    obtain ⟨c, cs, rfl⟩ := List.exists_cons_of_ne_nil hne
    obtain ⟨hspace, hbreak⟩ := Bool.or_eq_false_iff.1 hhidden
    have htab : c ≠ '\t' := ne_of_isPlainChar (hplain c List.mem_cons_self) (by decide)
    have hdeepest : deepest? 0 0 (margin ++ c :: (writeLines false cs ++ rest)) = some 2 := by
      change deepest? 2 0 (c :: _) = _
      rw [deepest?, if_neg (of_decide_eq_false hspace), hbreak, if_neg (by simp), if_neg htab]
      rfl
    simp only [column?, writeLines, hbreak, Bool.false_eq_true, if_false, if_true,
      List.append_assoc, List.cons_append, hdeepest]
    rfl

/-! ### Texts -/

/-- A text is the lines **up to its last word** and the line ends behind it. -/
theorem exists_eq_append (cs : List Char) :
    ∃ front ends, cs = front ++ ends ∧ (∀ c ∈ ends, isBreak c = true) ∧
      ∀ c ∈ front.getLast?, isBreak c = false := by
  refine ⟨cs.rdropWhile isBreak, cs.rtakeWhile isBreak,
    (List.rdropWhile_append_rtakeWhile).symm, fun _ => List.mem_rtakeWhile_imp, fun c hc => ?_⟩
  obtain ⟨hne, rfl⟩ := List.mem_getLast?_eq_getLast hc
  exact Bool.eq_false_iff.2 (List.rdropWhile_last_not _ _ hne)

/-- **Line ends only**, or several of them behind the last word, are all kept, and no line end is
added. -/
theorem chompOf_keep (hends : ∀ c ∈ ends, isBreak c = true) (hne : ends ≠ [])
    (hmany : cs = [] ∨ ends.tail ≠ []) :
    chompOf (cs ++ ends) = .keep ∧ endLine (cs ++ ends) = [] := by
  obtain ⟨init, c, rfl⟩ := (List.eq_nil_or_concat' ends).resolve_left hne
  have hc : isBreak c = true := hends c (by simp)
  have hinit : (cs ++ init).getLast?.all isBreak = true := by
    rw [Option.all_eq_true]
    intro d hd
    rcases List.eq_nil_or_concat' init with rfl | ⟨init, e, rfl⟩
    · obtain rfl := hmany.resolve_right (by simp)
      cases hd
    · rw [← List.append_assoc, List.getLast?_concat] at hd
      exact Option.some.inj hd ▸ hends e (by simp)
  rw [← List.append_assoc, chompOf_concat, hc, hinit, endLine, List.getLast?_concat,
    Option.any_some, hc]
  exact ⟨rfl, rfl⟩

/-- Behind a last word, the line ends are **what was written**, with one of the lines' own if there
is none. -/
theorem readFrom_endLine (hne : cs ≠ []) (hword : ∀ c ∈ cs.getLast?, isBreak c = false)
    (hends : ∀ c ∈ ends, isBreak c = true) (hmore : BeginsToken more) (startsBlank : Bool) :
    readFrom false (chompOf (cs ++ ends)) 2 (.line startsBlank)
      (ends ++ (endLine (cs ++ ends) ++ more)) = some (ends, more) := by
  obtain ⟨front, word, rfl⟩ := (List.eq_nil_or_concat' cs).resolve_left hne
  have hlast : isBreak word = false := hword word (by simp)
  match ends with
  | [] =>
    rw [List.append_nil, chompOf_concat, hlast, endLine, List.getLast?_concat, Option.any_some,
      hlast]
    exact (readFrom_line_break rfl _ _).trans (readFrom_ends nofun hmore)
  | [c] =>
    have hc : isBreak c = true := hends c List.mem_cons_self
    rw [chompOf_concat, hc, List.getLast?_concat, Option.all_some, hlast, endLine,
      List.getLast?_concat, Option.any_some, hc]
    exact (readFrom_line_break hc _ _).trans (readFrom_ends nofun hmore)
  | c :: d :: ends =>
    obtain ⟨hc, hothers⟩ := List.forall_mem_cons.1 hends
    obtain ⟨hkeep, hnone⟩ := @chompOf_keep (front ++ [word]) _ hends (List.cons_ne_nil _ _)
      (.inr (List.cons_ne_nil _ _))
    rw [hkeep, hnone]
    exact (readFrom_line_break hc _ _).trans (readFrom_ends hothers hmore)

/-- The text of indented lines is **what was written**. -/
theorem readFrom_writeStyled (hne : cs ≠ []) (hmore : BeginsToken more) :
    readFrom false (chompOf cs) 2 (.margin 0 {}) (writeLines true cs ++ (endLine cs ++ more)) =
      some (cs, more) := by
  obtain ⟨front, ends, rfl, hends, hword⟩ := exists_eq_append cs
  rw [writeLines_append hends, List.append_assoc]
  by_cases hfront : front = []
  · subst hfront
    obtain ⟨hkeep, hnone⟩ := chompOf_keep hends hne (.inl rfl)
    rw [hkeep, hnone]
    exact readFrom_ends hends hmore
  · obtain ⟨-, hmargin⟩ := readFrom_writeLines (readFrom_endLine hfront hword hends hmore) hword
    exact hmargin hfront {}

/-- Indented lines begin with their mark, and **end with a line end**. -/
theorem writeStyled_eq (cs : List Char) :
    ∃ body c, writeStyled .literal cs = '|' :: body ++ [c] ∧ isBreak c = true := by
  have hend : ∃ front c, writeLines true cs ++ endLine cs = front ++ [c] ∧ isBreak c = true := by
    cases hlast : cs.getLast?.any isBreak with
    | false => exact ⟨writeLines true cs, '\n', by rw [endLine, hlast]; rfl, rfl⟩
    | true =>
      obtain ⟨c, hc, hbreak⟩ := (Option.any_eq_true _ _).1 hlast
      obtain ⟨front, rfl⟩ := List.getLast?_eq_some_iff.1 hc
      refine ⟨writeLines true front, c, ?_, hbreak⟩
      rw [endLine, hlast, if_pos rfl, List.append_nil,
        writeLines_append (List.forall_mem_singleton.2 hbreak)]
  obtain ⟨front, c, hfront, hbreak⟩ := hend
  refine ⟨(if hidesIndent cs then ['2'] else []) ++ (chompOf cs).mark ++ ['\n'] ++ front, c, ?_,
    hbreak⟩
  rw [writeStyled, linesHeader_eq, List.append_assoc, hfront]
  simp only [List.cons_append, List.append_assoc]

/-- A text **as indented lines** is read back in a block at the margin, from behind its mark. -/
theorem read_writeStyled (h : allowsLines cs = true) (hne : cs ≠ []) (hmore : BeginsToken more) :
    read false (some 0) ((writeStyled .literal cs ++ more).drop 1) = some (cs, more) := by
  simp only [allowsLines, Bool.and_eq_true, List.all_eq_true] at h
  obtain ⟨⟨hplain, -⟩, -⟩ := h
  have hmarks := readMarks_append (hidesIndent cs) (chompOf cs)
    (writeLines true cs ++ (endLine cs ++ more))
  have hcolumn := column?_writeLines hplain hne (endLine cs ++ more)
  have htext := readFrom_writeStyled hne hmore
  simp only [writeStyled, linesHeader_eq, List.cons_append, List.drop_one, List.tail_cons,
    List.append_assoc, List.nil_append] at hmarks ⊢
  rw [read, hmarks]
  change (column? (some 0) _ _).bind (readFrom false (chompOf cs) · (.margin 0 {}) _) = _
  rw [hcolumn]
  exact htext

end Scaffold.Yaml.Block
