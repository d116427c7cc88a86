import Mathlib.Data.List.TakeWhile
import Scaffold.Proofs.Source.Header

/-!
# Where the header ends

The header of a source is found line by line from its top. A line is skipped if it is blank or an
ordinary comment, and the first line that is neither begins the rest. What is skipped consists of
whole lines, so no line is torn, and nothing that could be skipped is left in front of the rest.

A line can be looked at in two ways: with a carriage return before its line feed, or without it.
The scan uses both, the second to tell what the line is and the first to get past it. Trimming
takes the carriage return away, so that the two agree.

## Main definitions

* `IsSkipped` - lines that are blank or ordinary comments.
* `WholeLines` - a text that consists of whole lines.
* `HeaderCut` - a source is cut where its header ends.
* `scanHeader` - the scan from one line to the next.

## Main results

* `splitHeader_eq_iff` - a source is split where its header ends, and nowhere else.
* `scanHeader_eq` - the scan gives the header and the rest.
* `splitHeader_maximal` - both together, and that the split can be repeated.
-/

namespace Scaffold.Source

/-! ### Lines of a header -/

/-- A line **begins with two slashes**, and with no third one or exclamation mark behind them. -/
def BeginsComment (line : List Char) : Prop :=
  ['/', '/'] <+: line ∧ ¬ ['/', '/', '/'] <+: line ∧ ¬ ['/', '/', '!'] <+: line

/-- A line that is **skipped**: trimmed, it is empty or an ordinary comment. -/
def IsSkipped (line : List Char) : Prop :=
  Text.trim line = [] ∨ BeginsComment (Text.trim line)

/-- A text **consists of whole lines** in front of a rest: each of them ends in a line feed, but
the last one need not if nothing follows it. -/
inductive WholeLines (rest : List Char) : List (List Char) → List Char → Prop
  | nil : WholeLines rest [] []
  | line {line text : List Char} {lines : List (List Char)} : '\n' ∉ line →
      WholeLines rest lines text → WholeLines rest (line :: lines) (line ++ '\n' :: text)
  | last {line : List Char} : '\n' ∉ line → line ≠ [] → rest = [] → WholeLines rest [line] line

/-- The first line of a text, without its line feed. -/
def firstLine (cs : List Char) : List Char :=
  cs.takeWhile (· ≠ '\n')

/-- What a header keeps of lines that are skipped: those that are not blank, trimmed. -/
def kept (lines : List (List Char)) : List (List Char) :=
  (lines.map Text.trim).filter (!·.isEmpty)

/-- A source is **cut where its header ends**: behind whole lines that are skipped, and in front of
one that is not. -/
structure HeaderCut (source : List Char) (header : List (List Char)) (rest consumed : List Char)
    (lines : List (List Char)) : Prop where
  source_eq : source = consumed ++ rest
  wholeLines : WholeLines rest lines consumed
  isSkipped : ∀ line ∈ lines, IsSkipped line
  header_eq : header = kept lines
  rest_ends : rest = [] ∨ ¬ IsSkipped (firstLine rest)

/-- The lines of a header begin as comments do. -/
theorem isHeaderLine_iff {line : List Char} : isHeaderLine line = true ↔ BeginsComment line := by
  unfold isHeaderLine BeginsComment
  split
  · simp
  · simp
  · next rest hslash hmark =>
    refine iff_of_true rfl ⟨List.prefix_append ['/', '/'] rest, ?_, ?_⟩
    · rintro ⟨more, hmore⟩
      exact hslash more (List.cons.inj (List.cons.inj hmore.symm).2).2
    · rintro ⟨more, hmore⟩
      exact hmark more (List.cons.inj (List.cons.inj hmore.symm).2).2
  · next hother =>
    refine iff_of_false Bool.false_ne_true ?_
    rintro ⟨⟨rest, rfl⟩, -⟩
    exact hother rest rfl

/-- A comment is not blank. -/
theorem BeginsComment.ne_nil {line : List Char} (h : BeginsComment line) : line ≠ [] :=
  List.ne_nil_of_mem (h.1.subset List.mem_cons_self)

/-- Every text is one line, or a line in front of another text. -/
theorem line_cases (cs : List Char) :
    '\n' ∉ cs ∨ ∃ line more, '\n' ∉ line ∧ cs = line ++ '\n' :: more := by
  by_cases h : '\n' ∈ cs
  · obtain ⟨line, more, heq, hline⟩ := List.eq_append_cons_of_mem h
    exact .inr ⟨line, more, hline, heq⟩
  · exact .inl h

/-- The first line of a text ends at its first line feed. -/
theorem firstLine_append {line : List Char} (h : '\n' ∉ line) (more : List Char) :
    firstLine (line ++ '\n' :: more) = line := by
  rw [firstLine, List.takeWhile_append_of_pos fun c hc =>
    decide_eq_true (ne_of_mem_of_not_mem hc h)]
  simp

/-- A text without a line feed is its first line. -/
theorem firstLine_of_notMem {line : List Char} (h : '\n' ∉ line) : firstLine line = line :=
  List.takeWhile_eq_self_iff.2 fun _ hc => decide_eq_true (ne_of_mem_of_not_mem hc h)

/-- Of a line in front of others is kept what is kept of it alone. -/
theorem kept_cons (line : List Char) (lines : List (List Char)) :
    kept (line :: lines) = kept [line] ++ kept lines := by
  rw [kept, kept, kept, ← List.filter_append, ← List.map_append]
  rfl

/-- The lines of a header from a line that is skipped, whatever the others give. -/
theorem splitHeaderLines_cons {line : List Char} (h : IsSkipped line) (lines : List (List Char)) :
    splitHeaderLines (line :: lines) =
      (kept [line] ++ (splitHeaderLines lines).1, (splitHeaderLines lines).2) := by
  rw [splitHeaderLines, kept]
  dsimp only [List.map]
  rcases h with hblank | hcomment
  · rw [hblank]
    rfl
  · have hne : (Text.trim line).isEmpty = false := List.isEmpty_eq_false_iff.2 hcomment.ne_nil
    rw [if_pos (isHeaderLine_iff.2 hcomment), List.filter_cons_of_pos (by rw [hne]; rfl)]
    rfl

/-! ### One line of the split -/

section

variable {line : List Char}

/-- A line that is skipped **goes into the header**, unless it is blank. -/
theorem splitHeader_line (hline : '\n' ∉ line) (h : IsSkipped line) (more : List Char) :
    splitHeader (line ++ '\n' :: more) =
      (kept [line] ++ (splitHeader more).1, (splitHeader more).2) := by
  rw [splitHeader, Text.split_append_cons hline, splitHeaderLines_cons h]
  rfl

/-- The last line, which no line feed ends, goes there too. -/
theorem splitHeader_last (hline : '\n' ∉ line) (h : IsSkipped line) :
    splitHeader line = (kept [line], []) := by
  rw [splitHeader, Text.split_of_notMem hline, splitHeaderLines_cons h]
  exact Prod.ext (List.append_nil _) rfl

/-- A source that begins with a line that is not skipped has **no header**. -/
theorem splitHeader_of_not_isSkipped {source : List Char} (h : ¬ IsSkipped (firstLine source)) :
    splitHeader source = ([], source) := by
  obtain ⟨hblank, hcomment⟩ := not_or.1 h
  have hfirst : ∃ more, Text.split '\n' source = firstLine source :: more := by
    rcases line_cases source with hwhole | ⟨line, more, hline, rfl⟩
    · exact ⟨[], by rw [Text.split_of_notMem hwhole, firstLine_of_notMem hwhole]⟩
    · exact ⟨_, by rw [Text.split_append_cons hline, firstLine_append hline]⟩
  obtain ⟨more, hmore⟩ := hfirst
  have hlines : splitHeaderLines (Text.split '\n' source) = ([], Text.split '\n' source) := by
    rw [hmore, splitHeaderLines]
    dsimp only
    rw [if_neg (mt isHeaderLine_iff.1 hcomment), if_neg (mt List.isEmpty_iff.1 hblank)]
  rw [splitHeader, hlines]
  exact Prod.ext rfl (Text.intercalate_split '\n' source)

end

/-! ### Where the header ends -/

/-- A line in front of a source that is cut is consumed, if it is skipped. -/
theorem HeaderCut.line {line source rest consumed : List Char} {header lines : List (List Char)}
    (hline : '\n' ∉ line) (hskipped : IsSkipped line)
    (h : HeaderCut source header rest consumed lines) :
    HeaderCut (line ++ '\n' :: source) (kept [line] ++ header) rest (line ++ '\n' :: consumed)
      (line :: lines) where
  source_eq := by rw [h.source_eq, List.append_assoc, List.cons_append]
  wholeLines := .line hline h.wholeLines
  isSkipped := List.forall_mem_cons.2 ⟨hskipped, h.isSkipped⟩
  header_eq := by rw [h.header_eq, ← kept_cons]
  rest_ends := h.rest_ends

/-- A source is **split where its header ends**. -/
theorem exists_headerCut (source : List Char) : ∃ consumed lines,
    HeaderCut source (splitHeader source).1 (splitHeader source).2 consumed lines := by
  by_cases hskipped : IsSkipped (firstLine source)
  · rcases line_cases source with hwhole | ⟨line, more, hline, rfl⟩
    · rw [firstLine_of_notMem hwhole] at hskipped
      rw [splitHeader_last hwhole hskipped]
      by_cases hnil : source = []
      · exact ⟨[], [], by rw [hnil]; rfl, .nil, nofun, by rw [hnil]; rfl, .inl rfl⟩
      · exact ⟨source, [source], (List.append_nil _).symm, .last hwhole hnil rfl,
          List.forall_mem_singleton.2 hskipped, rfl, .inl rfl⟩
    · rw [firstLine_append hline] at hskipped
      rw [splitHeader_line hline hskipped]
      obtain ⟨consumed, lines, hcut⟩ := exists_headerCut more
      exact ⟨_, _, hcut.line hline hskipped⟩
  · rw [splitHeader_of_not_isSkipped hskipped]
    exact ⟨[], [], rfl, .nil, nofun, rfl, .inr hskipped⟩
termination_by source.length

/-- **Where its header ends is determined** for every source. -/
theorem HeaderCut.eq_splitHeader {source rest consumed : List Char}
    {header lines : List (List Char)} (h : HeaderCut source header rest consumed lines) :
    splitHeader source = (header, rest) := by
  obtain ⟨rfl, hlines, hskipped, rfl, hends⟩ := h
  induction hlines with
  | nil =>
    rcases hends with rfl | hends
    · rfl
    · exact splitHeader_of_not_isSkipped hends
  | line hline _ ih =>
    obtain ⟨hfirst, hothers⟩ := List.forall_mem_cons.1 hskipped
    rw [List.append_assoc, List.cons_append, splitHeader_line hline hfirst, ih hothers, ← kept_cons]
  | last hline hne hrest =>
    rw [hrest, List.append_nil]
    exact splitHeader_last hline (hskipped _ List.mem_cons_self)

/-- A source is **split where its header ends, and nowhere else**. -/
theorem splitHeader_eq_iff {source rest : List Char} {header : List (List Char)} :
    splitHeader source = (header, rest) ↔
      ∃ consumed lines, HeaderCut source header rest consumed lines := by
  constructor
  · intro h
    obtain ⟨consumed, lines, hcut⟩ := exists_headerCut source
    rw [h] at hcut
    exact ⟨consumed, lines, hcut⟩
  · rintro ⟨consumed, lines, hcut⟩
    exact hcut.eq_splitHeader

/-! ### The scan -/

/-- The first line of a text without its end: a line feed, or a carriage return and a line feed.
A carriage return without a line feed behind it ends no line. -/
def nextLine? (cs : List Char) : Option (List Char) :=
  if cs.isEmpty then none
  else if '\n' ∈ cs ∧ (firstLine cs).getLast? = some '\r' then some (firstLine cs).dropLast
  else some (firstLine cs)

/-- What follows the first line feed of a text; nothing if there is none. -/
def behindLine (cs : List Char) : List Char :=
  (cs.dropWhile (· ≠ '\n')).drop 1

/-- What follows the first line feed, in a text that begins with a line. -/
theorem behindLine_append {line : List Char} (h : '\n' ∉ line) (more : List Char) :
    behindLine (line ++ '\n' :: more) = more := by
  rw [behindLine, List.dropWhile_append_of_pos fun c hc =>
    decide_eq_true (ne_of_mem_of_not_mem hc h)]
  simp

/-- Nothing follows a text without a line feed. -/
theorem behindLine_of_notMem {line : List Char} (h : '\n' ∉ line) : behindLine line = [] := by
  rw [behindLine, List.dropWhile_eq_nil_iff.2 fun c hc =>
    decide_eq_true (ne_of_mem_of_not_mem hc h), List.drop_nil]

/-- There is a line unless the text is empty. -/
theorem nextLine?_eq_none {cs : List Char} (h : nextLine? cs = none) : cs = [] := by
  unfold nextLine? at h
  split at h
  · next hempty => exact List.isEmpty_iff.1 hempty
  · split at h <;> cases h

/-- **Both views of a line agree**: trimmed, it is the same with a carriage return and without. -/
theorem trim_nextLine? {cs line : List Char} (h : nextLine? cs = some line) :
    Text.trim line = Text.trim (firstLine cs) := by
  unfold nextLine? at h
  split at h
  · cases h
  split at h
  · next hreturn =>
    obtain rfl := Option.some.inj h
    obtain ⟨front, hfront⟩ := List.getLast?_eq_some_iff.1 hreturn.2
    rw [hfront, List.dropLast_concat,
      Text.trim_append_blank (List.forall_mem_singleton.2 (by decide))]
  · rw [Option.some.inj h]

/-- What follows the first line of a text is shorter. -/
theorem length_behindLine_lt {cs : List Char} (h : nextLine? cs ≠ none) :
    (behindLine cs).length < cs.length := by
  cases cs with
  | nil => exact absurd rfl h
  | cons c cs =>
    rw [behindLine, List.length_drop]
    have hle := (List.dropWhile_suffix (fun d => decide (d ≠ '\n')) (l := c :: cs)).length_le
    rw [List.length_cons] at hle ⊢
    omega

/-- The **scan** of a source from line to line, behind the lines of the header so far. -/
def scanHeader (header : List (List Char)) (rest : List Char) :
    List (List Char) × List Char :=
  match h : nextLine? rest with
  | none => (header, rest)
  | some line =>
    have := length_behindLine_lt (h ▸ Option.some_ne_none line)
    if isHeaderLine (Text.trim line) then
      scanHeader (header ++ [Text.trim line]) (behindLine rest)
    else if !(Text.trim line).isEmpty then
      (header, rest)
    else
      scanHeader header (behindLine rest)
termination_by rest.length

/-- A line that is skipped goes into the header, and the **split goes on behind it**. -/
theorem splitHeader_of_isSkipped {source : List Char} (h : IsSkipped (firstLine source)) :
    splitHeader source =
      (kept [firstLine source] ++ (splitHeader (behindLine source)).1,
        (splitHeader (behindLine source)).2) := by
  rcases line_cases source with hwhole | ⟨line, more, hline, rfl⟩
  · rw [firstLine_of_notMem hwhole] at h ⊢
    rw [splitHeader_last hwhole h, behindLine_of_notMem hwhole]
    exact Prod.ext (List.append_nil _).symm rfl
  · rw [firstLine_append hline] at h ⊢
    rw [splitHeader_line hline h, behindLine_append hline]

/-- The scan **goes on as the split does**, from every line that it reaches. -/
theorem scanHeader_append (header : List (List Char)) (rest : List Char) :
    scanHeader header rest = (header ++ (splitHeader rest).1, (splitHeader rest).2) := by
  fun_induction scanHeader header rest with
  | case1 header rest hnone =>
    rw [nextLine?_eq_none hnone]
    exact Prod.ext (List.append_nil _).symm rfl
  | case2 header rest line hline _ hcomment ih =>
    rw [trim_nextLine? hline] at hcomment ih ⊢
    have hbegins := isHeaderLine_iff.1 hcomment
    have hkept : kept [firstLine rest] = [Text.trim (firstLine rest)] :=
      List.filter_cons_of_pos (by simp [hbegins.ne_nil])
    rw [ih, splitHeader_of_isSkipped (.inr hbegins), hkept, List.append_assoc]
  | case3 header rest line hline _ hcomment hblank =>
    rw [trim_nextLine? hline] at hcomment hblank
    have hskipped : ¬ IsSkipped (firstLine rest) :=
      not_or.2 ⟨by simpa using hblank, mt isHeaderLine_iff.2 hcomment⟩
    rw [splitHeader_of_not_isSkipped hskipped, List.append_nil]
  | case4 header rest line hline _ hcomment hblank ih =>
    rw [trim_nextLine? hline] at hblank
    have hempty : Text.trim (firstLine rest) = [] := by simpa using hblank
    have hkept : kept [firstLine rest] = [] := by rw [kept, List.map_singleton, hempty]; rfl
    rw [ih, splitHeader_of_isSkipped (.inl hempty), hkept, List.nil_append]

/-- The scan gives the **header and the rest**. -/
theorem scanHeader_eq (source : List Char) : scanHeader [] source = splitHeader source :=
  scanHeader_append [] source

/-! ### The split again -/

/-- What is left behind a header has none. -/
theorem splitHeader_rest (source : List Char) :
    splitHeader (splitHeader source).2 = ([], (splitHeader source).2) := by
  obtain ⟨consumed, lines, hcut⟩ := exists_headerCut source
  exact splitHeader_eq_iff.2 ⟨[], [], rfl, .nil, nofun, rfl, hcut.rest_ends⟩

/-- Header and rest with a blank line between them are **split as they were**. -/
theorem splitHeader_rejoined (source : List Char) :
    splitHeader (List.intercalate ['\n'] (splitHeader source).1 ++
      '\n' :: '\n' :: (splitHeader source).2) = splitHeader source := by
  have hjoined := splitHeader_joinHeader (fun _ => @isHeaderComment_of_mem source _)
    (splitHeader source).2
  rw [splitHeader_rest, List.append_nil] at hjoined
  cases hheader : (splitHeader source).1 with
  | nil =>
    -- The two blank lines are passed over.
    have hblank : ∀ cs, splitHeader ('\n' :: cs) = splitHeader cs := fun cs =>
      @splitHeader_line [] (List.not_mem_nil) (.inl rfl) cs
    rw [List.intercalate_nil, List.nil_append, hblank, hblank, splitHeader_rest]
    exact Prod.ext hheader.symm rfl
  | cons first header =>
    rw [hheader] at hjoined
    exact hjoined.trans (Prod.ext hheader.symm rfl)

/-- **The header is maximal.** The scan and the split of a source agree, whatever ends its lines.
They cut the source behind whole lines that are blank or ordinary comments, and in front of a line
that is neither, unless nothing is left; the header has the comments, trimmed, in their order.
Put together again with a blank line between them, header and rest are split as they were. -/
theorem splitHeader_maximal (source : List Char) :
    ∃ header rest, splitHeader source = (header, rest) ∧ scanHeader [] source = (header, rest) ∧
      (∃ consumed lines, HeaderCut source header rest consumed lines) ∧
      splitHeader (List.intercalate ['\n'] header ++ '\n' :: '\n' :: rest) = (header, rest) :=
  ⟨_, _, rfl, scanHeader_eq source, exists_headerCut source, splitHeader_rejoined source⟩

/-- A carriage return ends no line by itself, and a line of other white space is blank. -/
example : splitHeader "// a\r\n\u2003\n//b \rc".toList =
    (["// a".toList, "//b \rc".toList], []) := by decide

end Scaffold.Source
