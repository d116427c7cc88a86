import Scaffold.Text.Blank

/-!
# Trimming

Trimming takes away blanks at both ends and nothing else, and it takes away all of them.

## Main results

* `exists_trim` - a text is its trimmed text between blanks.
* `trim_append` - a text without blanks, between blanks, is what trimming leaves.
* `head?_trim`, `getLast?_trim`, `trim_trim` - nothing is left to trim.
* `trim_blank_append`, `trim_append_blank` - blanks at the ends do not matter.
* `trim_eq_nil_iff` - nothing is left of blanks only.
* `trim_append_cons_cons` - what stands around two characters that are not blank is trimmed on its
  own.
-/

namespace Scaffold.Text

/-- What is trimmed from the left is blank. -/
theorem exists_trimLeft (cs : List Char) :
    ∃ front, cs = front ++ trimLeft cs ∧ ∀ c ∈ front, isBlank c = true := by
  refine ⟨cs.takeWhile isBlank, List.takeWhile_append_dropWhile.symm, fun c hc => ?_⟩
  exact List.all_eq_true.1 List.all_takeWhile c hc

/-- What is trimmed from the right is blank. -/
theorem exists_trimRight (cs : List Char) :
    ∃ back, cs = trimRight cs ++ back ∧ ∀ c ∈ back, isBlank c = true := by
  obtain ⟨front, hcs, hfront⟩ := exists_trimLeft cs.reverse
  refine ⟨front.reverse, ?_, fun c hc => hfront c (List.mem_reverse.1 hc)⟩
  have hreverse := congrArg List.reverse hcs
  rw [List.reverse_reverse, List.reverse_append] at hreverse
  exact hreverse

/-- A text is its **trimmed text between blanks**. -/
theorem exists_trim (cs : List Char) :
    ∃ front back, cs = front ++ trim cs ++ back ∧ (∀ c ∈ front, isBlank c = true) ∧
      ∀ c ∈ back, isBlank c = true := by
  obtain ⟨front, hfront, hfrontBlank⟩ := exists_trimLeft cs
  obtain ⟨back, hback, hbackBlank⟩ := exists_trimRight (trimLeft cs)
  refine ⟨front, back, ?_, hfrontBlank, hbackBlank⟩
  rw [List.append_assoc, trim, ← hback, ← hfront]

/-- Blanks in front of a text without blanks are trimmed, and nothing else. -/
theorem dropWhile_append {front cs : List Char} (hfront : ∀ c ∈ front, isBlank c = true)
    (hcs : ∀ c ∈ cs.head?, isBlank c = false) : (front ++ cs).dropWhile isBlank = cs := by
  rw [List.dropWhile_append_of_pos hfront]
  cases cs with
  | nil => rfl
  | cons c cs => rw [List.dropWhile_cons_of_neg (by rw [hcs c rfl]; exact Bool.false_ne_true)]

/-- A text **without blanks, between blanks**, is what trimming leaves. -/
theorem trim_append {front cs back : List Char} (hfront : ∀ c ∈ front, isBlank c = true)
    (hback : ∀ c ∈ back, isBlank c = true) (hcs : ∀ c ∈ cs, isBlank c = false) (hne : cs ≠ []) :
    trim (front ++ cs ++ back) = cs := by
  have hleft : trimLeft (front ++ cs ++ back) = cs ++ back := by
    rw [trimLeft, List.append_assoc]
    apply dropWhile_append hfront
    obtain ⟨c, rest, rfl⟩ := List.exists_cons_of_ne_nil hne
    intro d hd
    obtain rfl := Option.some.inj hd
    exact hcs _ List.mem_cons_self
  have hlast : ∀ c ∈ cs.reverse.head?, isBlank c = false := by
    intro c hc
    exact hcs c (List.mem_reverse.1 (List.mem_of_mem_head? hc))
  rw [trim, hleft, trimRight, List.reverse_append,
    dropWhile_append (fun c hc => hback c (List.mem_reverse.1 hc)) hlast, List.reverse_reverse]

/-- What has been trimmed on the left does not begin with a blank. -/
theorem head?_trimLeft {cs : List Char} {c : Char} (h : c ∈ (trimLeft cs).head?) :
    isBlank c = false := by
  have hnot := List.head?_dropWhile_not isBlank cs
  rw [← trimLeft, h] at hnot
  exact hnot

/-- What does not begin with a blank has none to trim on the left. -/
theorem trimLeft_eq_self {cs : List Char} (h : ∀ c ∈ cs.head?, isBlank c = false) :
    trimLeft cs = cs :=
  @dropWhile_append [] cs nofun h

/-- What has been trimmed does not begin with a blank. -/
theorem head?_trim {cs : List Char} {c : Char} (h : c ∈ (trim cs).head?) : isBlank c = false := by
  obtain ⟨back, hback, -⟩ := exists_trimRight (trimLeft cs)
  obtain ⟨rest, hrest⟩ := List.head?_eq_some_iff.1 h
  refine @head?_trimLeft cs c ?_
  rw [hback, ← trim, hrest]
  rfl

/-- Nor does it end with one. -/
theorem getLast?_trim {cs : List Char} {c : Char} (h : c ∈ (trim cs).getLast?) :
    isBlank c = false := by
  rw [trim, trimRight, List.getLast?_reverse] at h
  exact @head?_trimLeft (trimLeft cs).reverse c h

/-- **Nothing is left to trim** in what has been trimmed. -/
theorem trim_trim (cs : List Char) : trim (trim cs) = trim cs := by
  have hleft : trimLeft (trim cs) = trim cs := trimLeft_eq_self fun _ => head?_trim
  have hright : trimLeft (trim cs).reverse = (trim cs).reverse := by
    refine trimLeft_eq_self fun c hc => ?_
    rw [List.head?_reverse] at hc
    exact getLast?_trim hc
  rw [trim, hleft, trimRight]
  exact (congrArg List.reverse hright).trans (List.reverse_reverse _)

/-- **Blanks in front** of a text do not change what trimming leaves. -/
theorem trim_blank_append {front : List Char} (hfront : ∀ c ∈ front, isBlank c = true)
    (cs : List Char) : trim (front ++ cs) = trim cs := by
  rw [trim, trimLeft, List.dropWhile_append_of_pos hfront, trim, trimLeft]

/-- **Blanks at the end** of a text do not change what trimming leaves. -/
theorem trim_append_blank {back : List Char} (hback : ∀ c ∈ back, isBlank c = true)
    (cs : List Char) : trim (cs ++ back) = trim cs := by
  have hright : ∀ ds, trimRight (ds ++ back) = trimRight ds := by
    intro ds
    rw [trimRight, List.reverse_append,
      List.dropWhile_append_of_pos fun c hc => hback c (List.mem_reverse.1 hc), trimRight]
  rw [trim, trimLeft, List.dropWhile_append, trim, trimLeft]
  split
  · next hempty =>
    have hnil := @dropWhile_append back [] hback nofun
    rw [List.append_nil] at hnil
    rw [hnil, List.isEmpty_iff.1 hempty]
  · exact hright _

/-- **Nothing is left** of a text just if all of it is blank. -/
theorem trim_eq_nil_iff {cs : List Char} : trim cs = [] ↔ ∀ c ∈ cs, isBlank c = true := by
  constructor
  · intro h c hc
    obtain ⟨front, back, hcs, hfront, hback⟩ := exists_trim cs
    rw [h, List.append_nil] at hcs
    rw [hcs, List.mem_append] at hc
    exact hc.elim (hfront c) (hback c)
  · intro h
    exact trim_append_blank h []

/-! ### Trimming around characters that are not blank -/

section Cons

variable {c d : Char}

/-- What is trimmed from the left stands in front of a character that is not blank. -/
theorem trimLeft_append_cons (hc : isBlank c = false) (front cs : List Char) :
    trimLeft (front ++ c :: cs) = trimLeft front ++ c :: cs := by
  have hnot : ¬ isBlank c = true := by rw [hc]; exact Bool.false_ne_true
  rw [trimLeft, trimLeft, List.dropWhile_append]
  split
  · next hempty =>
    rw [List.isEmpty_iff.1 hempty, List.dropWhile_cons_of_neg hnot, List.nil_append]
  · rfl

/-- What is trimmed from the right stands behind it. -/
theorem trimRight_append_cons (hc : isBlank c = false) (cs back : List Char) :
    trimRight (cs ++ c :: back) = cs ++ c :: trimRight back := by
  have hleft := trimLeft_append_cons hc back.reverse cs.reverse
  have hreverse : (cs ++ c :: back).reverse = back.reverse ++ c :: cs.reverse := by
    rw [List.reverse_append, List.reverse_cons, List.append_assoc, List.singleton_append]
  rw [trimRight, hreverse, ← trimLeft, hleft, List.reverse_append, List.reverse_cons,
    List.reverse_reverse, List.append_assoc, List.singleton_append]
  rfl

/-- What stands **around two characters that are not blank** is trimmed on its own. -/
theorem trim_append_cons_cons (hc : isBlank c = false) (hd : isBlank d = false)
    (front back : List Char) :
    trim (front ++ c :: d :: back) = trimLeft front ++ c :: d :: trimRight back := by
  rw [trim, trimLeft_append_cons hc, trimRight_append_cons hc]
  exact congrArg (trimLeft front ++ c :: ·) (trimRight_append_cons hd [] back)

/-- A text that is trimmed on the right only keeps the **blanks in front of its trimmed text**. -/
theorem exists_trimRight_of_ne_nil {cs : List Char} (h : trim cs ≠ []) :
    ∃ front, trimRight cs = front ++ trim cs ∧ ∀ c ∈ front, isBlank c = true := by
  obtain ⟨front, hcs, hfront⟩ := exists_trimLeft cs
  refine ⟨front, ?_, hfront⟩
  cases hleft : trimLeft cs with
  | nil =>
    rw [trim, hleft] at h
    exact absurd rfl h
  | cons c rest =>
    have hc : isBlank c = false := by
      refine @head?_trimLeft cs c ?_
      rw [hleft]
      rfl
    have hname : trim cs = c :: trimRight rest := by
      rw [trim, hleft]
      exact trimRight_append_cons hc [] rest
    rw [hleft] at hcs
    calc trimRight cs = trimRight (front ++ c :: rest) := congrArg trimRight hcs
      _ = front ++ c :: trimRight rest := trimRight_append_cons hc front rest
      _ = front ++ trim cs := by rw [hname]

end Cons

end Scaffold.Text
