import Scaffold.Proofs.Text.Quoted
import Scaffold.Proofs.Yaml.Character

/-!
# Quoted scalars read back

Between single quotes a line end of a text is written with a margin behind it, and the reader
leaves that margin out. The reader keeps what it has read since the last word as a gap, so the
induction is over the text with the gap that stands in front of it. Between double quotes every line
end is an escape, and only spaces are kept.

## Main results

* `SingleQuoted.read_writeSingle` - a text between single quotes.
* `DoubleQuoted.read_flatMap` - a text between double quotes.
-/

namespace Scaffold.Yaml

variable {c : Char} {cs bs : List Char} {g : Gap} {behindBreak : Bool}

/-- A test that no two neighbours of a text satisfy, for the first two and the others. -/
theorem anyPair_cons {test : Char → Char → Bool} (h : anyPair test (c :: cs) = false) :
    (∀ d ∈ cs.head?, test c d = false) ∧ anyPair test cs = false := by
  cases cs with
  | nil => exact ⟨nofun, rfl⟩
  | cons d cs =>
    obtain ⟨hfirst, hothers⟩ := Bool.or_eq_false_iff.1 h
    exact ⟨fun _ hd => Option.some.inj hd ▸ hfirst, hothers⟩

/-! ### Single quotes -/

namespace SingleQuoted

/-- The gap that the reader has read **in front of the rest of a text**, behind a word or behind the
end of a line. It holds no blank that the rest would make the reader leave out. -/
inductive Pending : Gap → Bool → List Char → Prop
  /-- Spaces on one line, of which there are none where the line ends. -/
  | blanks {bs cs : List Char} (h : bs ≠ [] → ∀ c ∈ cs.head?, isBreak c = false) :
    Pending (.blanks bs) false cs
  /-- Line ends, with no space behind them. -/
  | lines {first : Char} {more cs : List Char} (hfirst : first ≠ '\n') (h : cs.head? ≠ some ' ') :
    Pending (.lines (some first) more 0) true cs

/-- The gap once the margin of a line has been read. -/
def indented (g : Gap) (behindBreak : Bool) : Gap :=
  if behindBreak then (g.addBlank ' ').addBlank ' ' else g

/-- The **margin** of a line is read as part of the gap. -/
theorem readFrom_margin (g : Gap) (behindBreak : Bool) (cs : List Char) :
    readFrom g ((if behindBreak then margin else []) ++ cs) =
      readFrom (indented g behindBreak) cs := by
  cases behindBreak <;> rfl

/-- Line ends of which the first is no line feed stand for **themselves**. -/
theorem text_lines {first : Char} (hfirst : first ≠ '\n') (more : List Char) (column : Nat) :
    (Gap.lines (some first) more column).text = first :: more := by
  rw [Gap.text]
  · exact fun _ h => hfirst h
  · exact hfirst

/-- The margin stands for nothing, and ends behind the start of the line. -/
theorem Pending.indented_text (h : Pending g behindBreak cs) :
    (indented g behindBreak).text = g.text ∧ (indented g behindBreak).atLineStart = false := by
  cases h with
  | blanks => exact ⟨rfl, rfl⟩
  | lines hfirst => exact ⟨(text_lines hfirst _ 2).trans (text_lines hfirst _ 0).symm, rfl⟩

/-- A character of a word is read as **itself**, a single quote from two of them. -/
theorem readFrom_word (hbreak : isBreak c = false) (hgap : isGap c = false)
    (hstart : g.atLineStart = false) (cs : List Char) :
    readFrom g ((if c = '\'' then ['\'', '\''] else [c]) ++ cs) =
      (readFrom .none cs).map (behind (g.text ++ [c])) := by
  by_cases hc : c = '\''
  · subst hc
    rfl
  · rw [if_neg hc, List.singleton_append, readFrom, hbreak, hgap, hstart]
    · rfl
    · exact fun _ h _ => hc h
    · exact hc

/-- A **line end** is read as part of the gap. -/
theorem readFrom_break (hbreak : isBreak c = true) (g : Gap) (cs : List Char) :
    readFrom g (c :: cs) = readFrom (g.addBreak c) cs := by
  have hc : c ≠ '\'' := by
    rintro rfl
    cases hbreak
  rw [readFrom, if_pos hbreak]
  · exact fun _ h _ => hc h
  · exact hc

/-- A line end is kept in the gap **as it is**, since it is no line feed and no space stands in
front of it. -/
theorem Pending.addBreak (h : Pending g behindBreak (c :: cs)) (hbreak : isBreak c = true)
    (hfeed : c ≠ '\n') (hspace : cs.head? ≠ some ' ') :
    Pending (g.addBreak c) true cs ∧ (g.addBreak c).text = g.text ++ [c] := by
  cases h with
  | @blanks bs _ h =>
    obtain rfl : bs = [] := by
      cases bs with
      | nil => rfl
      | cons b bs =>
        rw [h (List.cons_ne_nil _ _) c rfl] at hbreak
        cases hbreak
    exact ⟨.lines hfeed hspace, text_lines hfeed [] 0⟩
  | @lines first more _ hfirst =>
    refine ⟨.lines hfirst hspace, ?_⟩
    rw [text_lines hfirst, Gap.addBreak, text_lines hfirst, List.cons_append]

/-- The inside of single quotes is read back **behind a gap**. -/
theorem readFrom_writeSingle (hchars : ∀ c ∈ cs, isPlainChar c = true ∧ c ≠ '\n')
    (hspace : hasSpaceBreak cs = false) (hbreak : hasBreakSpace cs = false)
    (hgap : Pending g behindBreak cs) (rest : List Char) :
    readFrom g (writeSingle behindBreak cs ++ '\'' :: '\n' :: rest) =
      some (g.text ++ cs, '\n' :: rest) := by
  induction cs generalizing g behindBreak with
  | nil =>
    rw [writeSingle, readFrom_margin, ← hgap.indented_text.1, List.append_nil]
    rfl
  | cons c cs ih =>
    obtain ⟨⟨hplain, hfeed⟩, hcs⟩ := List.forall_mem_cons.1 hchars
    obtain ⟨hspace, hspaces⟩ := anyPair_cons hspace
    obtain ⟨hbreak, hbreaks⟩ := anyPair_cons hbreak
    rw [writeSingle]
    cases hc : isBreak c with
    | true =>
      have hhead : cs.head? ≠ some ' ' := by
        intro h
        have := hbreak ' ' h
        rw [hc] at this
        cases this
      obtain ⟨hnext, htext⟩ := hgap.addBreak hc hfeed hhead
      rw [if_pos rfl, List.cons_append, readFrom_break hc, ih hcs hspaces hbreaks hnext, htext,
        List.append_assoc, List.singleton_append]
    | false =>
      obtain ⟨htext, hstart⟩ := hgap.indented_text
      rw [if_neg (by simp), List.append_assoc, List.append_assoc, readFrom_margin]
      by_cases hword : c = ' '
      · -- A space on the line of the last word is kept for the next one.
        subst hword
        cases hgap with
        | lines _ h => exact absurd rfl h
        | @blanks bs =>
          have hnext : Pending (.blanks (bs ++ [' '])) false cs := .blanks fun _ d hd => by
            simpa using hspace d hd
          exact (ih hcs hspaces hbreaks hnext).trans (by simp [Gap.text])
      · have hnone : Pending .none false cs := .blanks (fun h => absurd rfl h)
        rw [readFrom_word hc (isGap_eq_false hplain hword) hstart,
          ih hcs hspaces hbreaks hnone, htext]
        simp [behind, Gap.none, Gap.text]

/-- A text **between single quotes** is read back, up to the end of the line. -/
theorem read_writeSingle (h : allowsSingle cs = true) (hfeed : '\n' ∉ cs) (rest : List Char) :
    read (writeSingle false cs ++ '\'' :: '\n' :: rest) = some (cs, '\n' :: rest) := by
  simp only [allowsSingle, Bool.and_eq_true, List.all_eq_true, Bool.not_eq_true'] at h
  obtain ⟨⟨hchars, hspace⟩, hbreak⟩ := h
  exact readFrom_writeSingle (fun c hc => ⟨hchars c hc, fun h => hfeed (h ▸ hc)⟩) hspace hbreak
    (.blanks fun h => absurd rfl h) rest

end SingleQuoted

/-! ### Double quotes -/

namespace DoubleQuoted

/-- The letter of an escape stands for the **character** that it was chosen for. -/
theorem named?_escapeLetter? {letter : Char} (h : escapeLetter? c = some letter) :
    named? letter = some c ∧ isBreak letter = false := by
  unfold escapeLetter? at h
  split at h
  all_goals first | (cases h; exact ⟨rfl, rfl⟩) | cases h

/-- What is no escape ends no line and is neither a quote nor a backslash. -/
theorem of_escapeLetter?_eq_none (h : escapeLetter? c = none) :
    isBreak c = false ∧ c ≠ '"' ∧ c ≠ '\\' := by
  have hne {d : Char} (hd : (escapeLetter? d).isSome) : c ≠ d := by
    rintro rfl
    rw [h] at hd
    cases hd
  refine ⟨?_, hne rfl, hne rfl⟩
  rw [isBreak, decide_eq_false (hne rfl), decide_eq_false (hne rfl), decide_eq_false (hne rfl)]
  rfl

/-- The value of a **hexadecimal digit**. -/
theorem hexValue?_hexDigit : ∀ d < 16, Text.hexValue? (hexDigit d) = some d := by
  decide

/-- A digit in front of others is **added to the value**. -/
theorem readFrom_digit {d : Nat} (hd : Text.hexValue? c = some d) (more value : Nat)
    (cs : List Char) :
    readFrom (.code (more + 1) value) (c :: cs) = readFrom (.code more (16 * value + d)) cs := by
  simp only [readFrom, hd]

/-- The last digit **completes** the number of a character. -/
theorem readFrom_lastDigit {d value : Nat} (hd : Text.hexValue? c = some d)
    (hvalid : (16 * value + d).isValidChar) (cs : List Char) :
    readFrom (.code 0 value) (c :: cs) =
      (readFrom (.text .none) cs).map (behind [Char.ofNat (16 * value + d)]) := by
  simp only [readFrom, hd, if_pos hvalid]

/-- The digits of a number leave the reader with its value, as long as **more digits are to come**.
The recursion removes the last digit, which is the last one to be read. -/
theorem readFrom_hexDigits {places : Nat} :
    ∀ {n : Nat} (more : Nat) (rest : List Char), n < Nat.pow 16 places →
      readFrom (.code (more + places) 0) (hexDigits places n ++ rest) =
        readFrom (.code more n) rest := by
  induction places with
  | zero =>
    intro n more rest hn
    obtain rfl : n = 0 := Nat.lt_one_iff.1 hn
    rfl
  | succ places ih =>
    intro n more rest hn
    have hdigit : n % 16 < 16 := Nat.mod_lt _ (by decide)
    have hhigh : n / 16 < Nat.pow 16 places := Nat.div_lt_of_lt_mul (Nat.mul_comm .. ▸ hn)
    have hmore : more + (places + 1) = more + 1 + places := by omega
    rw [hexDigits, List.append_assoc, List.singleton_append, hmore, ih (more + 1) _ hhigh,
      readFrom_digit (hexValue?_hexDigit _ hdigit), Nat.div_add_mod]

/-- The digits of the number of a character are read as the **character**. -/
theorem readFrom_code (places : Nat) (hnumber : c.toNat < Nat.pow 16 (places + 1))
    (rest : List Char) :
    readFrom (.code places 0) (hexDigits (places + 1) c.toNat ++ rest) =
      (readFrom (.text .none) rest).map (behind [c]) := by
  have hdigit : c.toNat % 16 < 16 := Nat.mod_lt _ (by decide)
  have hvalue : 16 * (c.toNat / 16) + c.toNat % 16 = c.toNat := Nat.div_add_mod ..
  have hhigh := @readFrom_hexDigits places (c.toNat / 16) 0
    (hexDigit (c.toNat % 16) :: rest) (Nat.div_lt_of_lt_mul (Nat.mul_comm .. ▸ hnumber))
  rw [Nat.zero_add] at hhigh
  have hvalid : (16 * (c.toNat / 16) + c.toNat % 16).isValidChar := by
    rw [hvalue]
    exact c.valid
  rw [hexDigits, List.append_assoc, List.singleton_append, hhigh,
    readFrom_lastDigit (hexValue?_hexDigit _ hdigit) hvalid, hvalue, Char.ofNat_toNat]

/-- A text behind a backslash is put **behind the gap** in front of it. -/
theorem readFrom_backslash {escaped rest : List Char}
    (h : readFrom .escape escaped = (readFrom (.text .none) rest).map (behind [c])) :
    readFrom (.text (.blanks bs)) ('\\' :: escaped) =
      (readFrom (.text .none) rest).map (behind (bs ++ [c])) := by
  change (readFrom .escape escaped).map (behind bs) = _
  rw [h, Option.map_map]
  congr 1
  funext r
  exact Prod.ext (List.append_assoc bs [c] r.1).symm rfl

/-- A **numeric escape** is read as the character of its number. -/
theorem readFrom_numericEscape (c : Char) (rest : List Char) :
    readFrom (.text (.blanks bs)) (numericEscape c.toNat ++ rest) =
      (readFrom (.text .none) rest).map (behind (bs ++ [c])) := by
  unfold numericEscape
  split
  case isTrue hbyte =>
    exact readFrom_backslash (readFrom_code 1 (Nat.lt_of_le_of_lt hbyte (by decide)) rest)
  case isFalse =>
    split
    case isTrue hunit =>
      exact readFrom_backslash (readFrom_code 3 (Nat.lt_of_le_of_lt hunit (by decide)) rest)
    case isFalse => exact readFrom_backslash (readFrom_code 7 c.val.toNat_lt rest)

/-- Every character **but a space** is read as itself, behind the spaces in front of it. -/
theorem readFrom_writeDoubleChar (hspace : c ≠ ' ') (rest : List Char) :
    readFrom (.text (.blanks bs)) (writeDoubleChar c ++ rest) =
      (readFrom (.text .none) rest).map (behind (bs ++ [c])) := by
  unfold writeDoubleChar
  cases hescape : escapeLetter? c with
  | some letter =>
    obtain ⟨hnamed, hbreak⟩ := named?_escapeLetter? hescape
    have hread : readFrom .escape (letter :: rest) =
        (readFrom (.text .none) rest).map (behind [c]) := by
      simp only [readFrom, hbreak, hnamed]
      rfl
    exact readFrom_backslash hread
  | none =>
    obtain ⟨hbreak, hquote, hbackslash⟩ := of_escapeLetter?_eq_none hescape
    cases hplain : isPlainChar c with
    | false => exact readFrom_numericEscape c rest
    | true =>
      change readFrom _ (c :: rest) = _
      rw [readFrom, hbreak, isGap_eq_false hplain hspace, if_neg hquote, if_neg hbackslash]
      rfl

/-- The inside of double quotes is read back **behind spaces**. -/
theorem readFrom_flatMap (rest : List Char) :
    readFrom (.text (.blanks bs)) (cs.flatMap writeDoubleChar ++ '"' :: rest) =
      some (bs ++ cs, rest) := by
  induction cs generalizing bs with
  | nil => rw [List.append_nil]; rfl
  | cons c cs ih =>
    rw [List.flatMap_cons, List.append_assoc]
    by_cases hspace : c = ' '
    · subst hspace
      exact ih.trans (by rw [List.append_assoc, List.singleton_append])
    · rw [readFrom_writeDoubleChar hspace, Gap.none, ih]
      simp [behind]

/-- Every text is read back from **between double quotes**. -/
theorem read_flatMap (cs rest : List Char) :
    read (cs.flatMap writeDoubleChar ++ '"' :: rest) = some (cs, rest) :=
  readFrom_flatMap rest

end DoubleQuoted

end Scaffold.Yaml
