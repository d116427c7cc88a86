/-!
# Splitting text

Text cut at every occurrence of a character. The pieces are one more than the occurrences, and
joining them by the character gives the text back.

## Main results

* `intercalate_split`, `split_intercalate` - joining undoes splitting, and splitting joining where
  no piece contains the character.
* `flatten_split` - the pieces in a row are the text without the character.
* `split_of_notMem`, `split_append_cons` - the pieces of a text by its first occurrence of the
  character.
-/

namespace Scaffold.Text

/-- The pieces of a text between the occurrences of a character. -/
def split (mark : Char) (cs : List Char) : List (List Char) :=
  match cs with
  | [] => [[]]
  | c :: rest =>
    if c = mark then
      [] :: split mark rest
    else
      match split mark rest with
      | [] => [[c]]
      | piece :: more => (c :: piece) :: more

/-- A text has at least one piece. -/
theorem split_ne_nil (mark : Char) (cs : List Char) : split mark cs ≠ [] := by
  cases cs with
  | nil => simp [split]
  | cons c rest =>
    rw [split]
    split
    · simp
    · split <;> simp

/-- Joining the pieces of a text gives the text back. -/
theorem intercalate_split (mark : Char) (cs : List Char) :
    List.intercalate [mark] (split mark cs) = cs := by
  induction cs with
  | nil => simp [split, List.intercalate]
  | cons c rest ih =>
    rw [split]
    obtain ⟨piece, more, h⟩ := List.exists_cons_of_ne_nil (split_ne_nil mark rest)
    rw [h] at ih ⊢
    split
    · next hc => cases more <;> simp_all [List.intercalate]
    · cases more <;> simp_all [List.intercalate]

/-- The pieces of a text in a row are the text without the character. -/
theorem flatten_split (mark : Char) (cs : List Char) :
    (split mark cs).flatten = cs.filter (· ≠ mark) := by
  induction cs with
  | nil => rfl
  | cons c rest ih =>
    rw [split]
    split
    · next hc => simp [hc, ih]
    · next hc =>
      obtain ⟨piece, more, h⟩ := List.exists_cons_of_ne_nil (split_ne_nil mark rest)
      rw [h] at ih ⊢
      rw [List.filter_cons_of_pos (by simpa using hc), ← ih]
      rfl

/-- A text without the character is one piece. -/
theorem split_of_notMem {mark : Char} {cs : List Char} (h : mark ∉ cs) : split mark cs = [cs] := by
  induction cs with
  | nil => rfl
  | cons c rest ih =>
    obtain ⟨hc, hrest⟩ := not_or.1 (mt List.mem_cons.2 h)
    rw [split, if_neg (Ne.symm hc), ih hrest]

/-- The first piece of a text ends where the character occurs first. -/
theorem split_append_cons {mark : Char} {cs rest : List Char} (h : mark ∉ cs) :
    split mark (cs ++ mark :: rest) = cs :: split mark rest := by
  induction cs with
  | nil => rw [List.nil_append, split, if_pos rfl]
  | cons c cs ih =>
    obtain ⟨hc, hcs⟩ := not_or.1 (mt List.mem_cons.2 h)
    rw [List.cons_append, split, if_neg (Ne.symm hc), ih hcs]

/-- Splitting the joined pieces gives the pieces back, if there is one at least and none contains
the character. -/
theorem split_intercalate {mark : Char} {piece : List Char} {more : List (List Char)}
    (h : ∀ p ∈ piece :: more, mark ∉ p) :
    split mark (List.intercalate [mark] (piece :: more)) = piece :: more := by
  induction more generalizing piece with
  | nil => rw [List.intercalate_singleton, split_of_notMem (h piece List.mem_cons_self)]
  | cons next more ih =>
    obtain ⟨hpiece, hmore⟩ := List.forall_mem_cons.1 h
    rw [List.intercalate_cons_cons, List.append_assoc, List.singleton_append,
      split_append_cons hpiece, ih hmore]

/-- A text determines what stands before and behind the first occurrence of the character. -/
theorem append_cons_inj {mark : Char} {as bs s t : List Char} (ha : mark ∉ as) (hb : mark ∉ bs)
    (h : as ++ mark :: s = bs ++ mark :: t) : as = bs ∧ s = t := by
  have hsplit := congrArg (split mark) h
  rw [split_append_cons ha, split_append_cons hb] at hsplit
  obtain rfl := (List.cons.inj hsplit).1
  exact ⟨rfl, (List.cons.inj (List.append_cancel_left h)).2⟩

/-- No piece contains the character. -/
theorem notMem_of_mem_split {mark : Char} {cs piece : List Char} (h : piece ∈ split mark cs) :
    mark ∉ piece := by
  induction cs generalizing piece with
  | nil => simp_all [split]
  | cons c rest ih =>
    obtain ⟨first, more, hsplit⟩ := List.exists_cons_of_ne_nil (split_ne_nil mark rest)
    rw [split, hsplit] at h
    rw [hsplit] at ih
    split at h
    · rcases List.mem_cons.1 h with rfl | h
      · simp
      · exact ih h
    · next hc =>
      rcases List.mem_cons.1 h with rfl | h
      · simpa [Ne.symm hc] using ih List.mem_cons_self
      · exact ih (List.mem_cons_of_mem _ h)

end Scaffold.Text
