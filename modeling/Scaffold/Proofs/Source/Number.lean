import Scaffold.Source.Literal

/-!
# Where numbers end

A number ends in front of a blank, the end of a line or a closing angle bracket, and what stands in
front of these is the same number if they are left out. What follows a number is the end of the text
behind its first digit.

## Main definitions

* `Stops` - a text begins with a blank, the end of a line or a closing angle bracket, if with
  anything.

## Main results

* `Literal.number?_append` - a number does not depend on such a text behind it.
* `Literal.suffix_of_number?` - what follows a number.
-/

namespace Scaffold.Source

open Text (startsIdentifier continuesIdentifier)

/-- What may follow solid text: a blank, the end of a line or a closing angle bracket. -/
def Stops (cs : List Char) : Prop :=
  ∀ c ∈ cs.head?, c = ' ' ∨ c = '\n' ∨ c = '>'

/-- Where solid text stops, no test holds that refuses a blank, the end of a line and a closing
angle bracket. -/
theorem Stops.head {v : List Char} (hv : Stops v) {test : Char → Bool}
    (hblank : test ' ' = false) (hline : test '\n' = false) (hangle : test '>' = false) :
    ∀ c ∈ v.head?, test c = false := by
  intro c hc
  rcases hv c hc with rfl | rfl | rfl
  · exact hblank
  · exact hline
  · exact hangle

/-- The texts in front of which solid text stops. -/
theorem Stops.eq {v : List Char} (hv : Stops v) :
    v = [] ∨ (∃ w, v = ' ' :: w) ∨ (∃ w, v = '\n' :: w) ∨ ∃ w, v = '>' :: w := by
  rcases v with _ | ⟨c, w⟩
  · exact .inl rfl
  · rcases hv c rfl with rfl | rfl | rfl
    · exact .inr (.inl ⟨w, rfl⟩)
    · exact .inr (.inr (.inl ⟨w, rfl⟩))
    · exact .inr (.inr (.inr ⟨w, rfl⟩))

variable {u v r : List Char}

/-! ### Runs of characters -/

/-- A run of characters ends where solid text stops. -/
theorem dropWhile_append_stops (test : Char → Bool) (u : List Char)
    (hv : ∀ c ∈ v.head?, test c = false) :
    (u ++ v).dropWhile test = u.dropWhile test ++ v := by
  have hstay : v.dropWhile test = v := by
    cases v with
    | nil => rfl
    | cons c v => exact List.dropWhile_cons_of_neg (by simp [hv c rfl])
  rw [List.dropWhile_append, hstay]
  split
  · next h => rw [List.isEmpty_iff.1 h, List.nil_append]
  · rfl

/-- The run itself is the same. -/
theorem takeWhile_append_stops (test : Char → Bool) (u : List Char)
    (hv : ∀ c ∈ v.head?, test c = false) : (u ++ v).takeWhile test = u.takeWhile test := by
  have hstop : v.takeWhile test = [] := by
    cases v with
    | nil => rfl
    | cons c v => exact List.takeWhile_cons_of_neg (by simp [hv c rfl])
  rw [List.takeWhile_append, hstop, List.append_nil]
  split
  · next h => exact (List.takeWhile_prefix test).eq_of_length h |>.symm
  · rfl

/-- Neither does the first character of what follows pass a test. -/
theorem head?_any_append_stops {test : Char → Bool} (u : List Char)
    (hv : ∀ c ∈ v.head?, test c = false) : (u ++ v).head?.any test = u.head?.any test := by
  rcases u with _ | ⟨c, u⟩
  · rcases v with _ | ⟨c, v⟩
    · rfl
    · simpa using hv c rfl
  · rfl

/-! ### Numbers -/

namespace Literal

/-- What follows the sign of an exponent, if it has one. -/
def afterSign (cs : List Char) : List Char :=
  match cs with
  | '+' :: rest => rest.dropWhile (· = '_')
  | '-' :: rest => rest.dropWhile (· = '_')
  | rest => rest

/-- What follows the digits of an exponent, of which there has to be one. -/
def afterDigits? (cs : List Char) : Option (List Char) :=
  match cs with
  | c :: rest => if c.isDigit then some ((c :: rest).dropWhile isDigitOrGap) else none
  | [] => none

/-- An exponent is a sign and digits. -/
theorem exponent?_eq (cs : List Char) :
    exponent? cs = afterDigits? (afterSign (cs.dropWhile (· = '_'))) := by
  change (match afterSign (cs.dropWhile (· = '_')) with
    | c :: _ =>
      if c.isDigit then some ((afterSign (cs.dropWhile (· = '_'))).dropWhile isDigitOrGap) else none
    | [] => none) = _
  cases afterSign (cs.dropWhile (· = '_')) <;> rfl

/-- An exponent ends where solid text stops. -/
theorem exponent?_append (hv : Stops v) (u : List Char) :
    exponent? (u ++ v) = (exponent? u).map (· ++ v) := by
  have hgap : ∀ c ∈ v.head?, decide (c = '_') = false := hv.head rfl rfl rfl
  have hsign (w : List Char) : afterSign (w ++ v) = afterSign w ++ v := by
    rcases w with _ | ⟨c, w⟩
    · rcases hv.eq with rfl | ⟨w, rfl⟩ | ⟨w, rfl⟩ | ⟨w, rfl⟩ <;> rfl
    · by_cases hplus : c = '+'
      · subst hplus
        exact dropWhile_append_stops _ w hgap
      by_cases hminus : c = '-'
      · subst hminus
        exact dropWhile_append_stops _ w hgap
      · simp [afterSign, hplus, hminus]
  have hdigits (w : List Char) : afterDigits? (w ++ v) = (afterDigits? w).map (· ++ v) := by
    rcases w with _ | ⟨c, w⟩
    · rcases hv.eq with rfl | ⟨w, rfl⟩ | ⟨w, rfl⟩ | ⟨w, rfl⟩ <;> rfl
    · have hdrop := dropWhile_append_stops isDigitOrGap (c :: w) (hv.head rfl rfl rfl)
      rw [List.cons_append, afterDigits?, afterDigits?]
      split
      · rw [← List.cons_append, hdrop, Option.map_some]
      · rfl
  rw [exponent?_eq, exponent?_eq, dropWhile_append_stops _ u hgap, hsign, hdigits]

/-- What follows the exponent of a number with a point, if it has one. -/
def afterFraction (cs : List Char) : List Char :=
  match cs with
  | 'e' :: more => (exponent? more).getD cs
  | 'E' :: more => (exponent? more).getD cs
  | rest => rest

/-- What follows the whole part of a number with a point or an exponent. -/
def afterWhole? (cs : List Char) : Option (List Char) :=
  match cs with
  | '.' :: rest =>
    if rest.head?.any fun c => c = '.' || startsIdentifier c then none
    else some (afterFraction (rest.dropWhile isDigitOrGap))
  | 'e' :: rest => exponent? rest
  | 'E' :: rest => exponent? rest
  | _ => none

/-- A number with a point or an exponent is a whole part and a fraction. -/
theorem float?_eq (cs : List Char) : float? cs = afterWhole? (cs.dropWhile isDigitOrGap) := by
  unfold float?
  generalize cs.dropWhile isDigitOrGap = w
  split
  · next rest =>
      rw [afterWhole?]
      generalize rest.dropWhile isDigitOrGap = z
      dsimp only
      split
      · rfl
      · split
        · rfl
        · rfl
        · next hlower hupper => rw [afterFraction.eq_3 z hlower hupper]
  · rfl
  · rfl
  · next hpoint hlower hupper => exact (afterWhole?.eq_4 w hpoint hlower hupper).symm

/-- A number with a point or an exponent ends where solid text stops. -/
theorem float?_append (hv : Stops v) (u : List Char) :
    float? (u ++ v) = (float? u).map (· ++ v) := by
  have hexponent (c : Char) (w : List Char) : (exponent? (w ++ v)).getD (c :: (w ++ v)) =
      (exponent? w).getD (c :: w) ++ v := by
    rw [exponent?_append hv]
    cases exponent? w <;> rfl
  have hfraction (w : List Char) : afterFraction (w ++ v) = afterFraction w ++ v := by
    rcases w with _ | ⟨c, w⟩
    · rcases hv.eq with rfl | ⟨w, rfl⟩ | ⟨w, rfl⟩ | ⟨w, rfl⟩ <;> rfl
    · by_cases hlower : c = 'e'
      · subst hlower
        exact hexponent 'e' w
      by_cases hupper : c = 'E'
      · subst hupper
        exact hexponent 'E' w
      · simp [afterFraction, hlower, hupper]
  rw [float?_eq, float?_eq, dropWhile_append_stops _ u (hv.head rfl rfl rfl)]
  rcases u.dropWhile isDigitOrGap with _ | ⟨c, w⟩
  · rcases hv.eq with rfl | ⟨w, rfl⟩ | ⟨w, rfl⟩ | ⟨w, rfl⟩ <;> rfl
  · by_cases hpoint : c = '.'
    · subst hpoint
      have hnone : ∀ c ∈ v.head?, (decide (c = '.') || startsIdentifier c) = false :=
          hv.head rfl rfl rfl
      rw [List.cons_append, afterWhole?, afterWhole?, head?_any_append_stops w hnone,
        dropWhile_append_stops _ w (hv.head rfl rfl rfl), hfraction]
      split <;> rfl
    by_cases hlower : c = 'e'
    · subst hlower
      exact exponent?_append hv w
    by_cases hupper : c = 'E'
    · subst hupper
      exact exponent?_append hv w
    · simp [afterWhole?, hpoint, hlower, hupper]

/-- Digits end where solid text stops. -/
theorem integer?_append (hv : Stops v) (u : List Char) :
    integer? (u ++ v) = (integer? u).map (· ++ v) := by
  have hbase : base (u ++ v) = ((base u).1, (base u).2 ++ v) := by
    rcases u with _ | ⟨c, _ | ⟨d, w⟩⟩
    · rcases hv.eq with rfl | ⟨w, rfl⟩ | ⟨w, rfl⟩ | ⟨w, rfl⟩ <;> rfl
    · rcases hv.eq with rfl | ⟨w, rfl⟩ | ⟨w, rfl⟩ | ⟨w, rfl⟩ <;> simp [base]
    · by_cases hzero : c = '0'
      · subst hzero
        by_cases hmark : d = 'x' ∨ d = 'o' ∨ d = 'b'
        · obtain rfl | rfl | rfl := hmark <;> rfl
        · simp only [not_or] at hmark
          simp [base, hmark]
      · simp [base, hzero]
  have hdigits (b : Nat) : ∀ c ∈ v.head?, isDigitOf b c = false := hv.head rfl rfl rfl
  unfold integer?
  rw [hbase]
  dsimp only
  rw [takeWhile_append_stops _ _ (hdigits _), dropWhile_append_stops _ _ (hdigits _)]
  split <;> rfl

/-- What follows a suffix of a literal. -/
theorem afterSuffix_append (hv : Stops v) (u : List Char) :
    afterSuffix (u ++ v) = afterSuffix u ++ v := by
  rcases u with _ | ⟨c, u⟩
  · rcases hv.eq with rfl | ⟨w, rfl⟩ | ⟨w, rfl⟩ | ⟨w, rfl⟩ <;> rfl
  · rw [List.cons_append, afterSuffix, afterSuffix]
    split
    · exact dropWhile_append_stops _ u (hv.head rfl rfl rfl)
    · rfl

/-- A number ends where solid text stops. -/
theorem number?_append (hv : Stops v) (u : List Char) :
    number? (u ++ v) = (number? u).map fun x => (x.1, x.2 ++ v) := by
  have hafter (w : List Char) : afterNumber? (w ++ v) = (afterNumber? w).map (· ++ v) := by
    unfold afterNumber?
    dsimp only
    rw [afterSuffix_append hv, head?_any_append_stops _ (hv.head rfl rfl rfl)]
    split <;> rfl
  have hbind (x : Option (List Char)) :
      (x.map (· ++ v)).bind afterNumber? = (x.bind afterNumber?).map (· ++ v) := by
    cases x with
    | none => rfl
    | some w => exact hafter w
  unfold number?
  rw [head?_any_append_stops _ (hv.head rfl rfl rfl), float?_append hv, integer?_append hv, hbind,
    hbind]
  split
  · cases (float? u).bind afterNumber? with
    | some w => rfl
    | none => cases (integer? u).bind afterNumber? <;> rfl
  · rfl

/-- A literal that is no quotation is a number. -/
theorem read?_eq (h : quoted? u = none) :
    read? u = (number? u).map fun x => (⟨x.1, u.take (u.length - x.2.length)⟩, x.2) := by
  rw [read?, kind?, h]

/-- Behind an exponent stands the end of its text. -/
theorem suffix_of_exponent? (h : exponent? u = some r) : r <:+ u := by
  have hsign (w : List Char) : afterSign w <:+ w := by
    unfold afterSign
    split
    · exact (List.dropWhile_suffix _).trans (List.suffix_cons _ _)
    · exact (List.dropWhile_suffix _).trans (List.suffix_cons _ _)
    · exact List.suffix_rfl
  have hdigits {w : List Char} (h : afterDigits? w = some r) : r <:+ w := by
    unfold afterDigits? at h
    split at h
    · split at h
      · cases h
        exact List.dropWhile_suffix _
      · cases h
    · cases h
  rw [exponent?_eq] at h
  exact (hdigits h).trans ((hsign _).trans (List.dropWhile_suffix _))

/-- Behind a number with a point or an exponent stands the end of the text behind its first
digit. -/
theorem suffix_of_float? {c : Char} (hc : c.isDigit = true) (h : float? (c :: u) = some r) :
    r <:+ u := by
  have hexponent {c : Char} {w : List Char} : (exponent? w).getD (c :: w) <:+ c :: w := by
    cases hw : exponent? w with
    | none => exact List.suffix_rfl
    | some z => exact (suffix_of_exponent? hw).trans (List.suffix_cons c w)
  have hfraction (w : List Char) : afterFraction w <:+ w := by
    unfold afterFraction
    split
    · exact hexponent
    · exact hexponent
    · exact List.suffix_rfl
  have hwhole {w : List Char} (h : afterWhole? w = some r) : r <:+ w := by
    unfold afterWhole? at h
    split at h
    · split at h
      · cases h
      · cases h
        exact (hfraction _).trans ((List.dropWhile_suffix _).trans (List.suffix_cons _ _))
    · exact (suffix_of_exponent? h).trans (List.suffix_cons _ _)
    · exact (suffix_of_exponent? h).trans (List.suffix_cons _ _)
    · cases h
  rw [float?_eq, List.dropWhile_cons_of_pos (by simp [isDigitOrGap, hc])] at h
  exact (hwhole h).trans (List.dropWhile_suffix _)

/-- So it does behind a whole number. -/
theorem suffix_of_integer? {c : Char} (hc : c.isDigit = true)
    (h : integer? (c :: u) = some r) : r <:+ u := by
  have hbase : (base (c :: u)).2.dropWhile (isDigitOf (base (c :: u)).1) <:+ u := by
    unfold base
    split
    · next heq =>
      obtain ⟨-, rfl⟩ := List.cons.inj heq
      exact (List.dropWhile_suffix _).trans (List.suffix_cons _ _)
    · next heq =>
      obtain ⟨-, rfl⟩ := List.cons.inj heq
      exact (List.dropWhile_suffix _).trans (List.suffix_cons _ _)
    · next heq =>
      obtain ⟨-, rfl⟩ := List.cons.inj heq
      exact (List.dropWhile_suffix _).trans (List.suffix_cons _ _)
    · rw [List.dropWhile_cons_of_pos (by simp [isDigitOf, hc])]
      exact List.dropWhile_suffix _
  unfold integer? at h
  dsimp only at h
  split at h
  · cases h
    exact hbase
  · cases h

/-- Behind a suffix stands the end of the text. -/
theorem suffix_afterSuffix (u : List Char) : afterSuffix u <:+ u := by
  unfold afterSuffix
  split
  · exact List.suffix_rfl
  · split
    · exact (List.dropWhile_suffix _).trans (List.suffix_cons _ _)
    · exact List.suffix_rfl

/-- Behind a number and its suffix stands the **end of the text behind its first digit**. -/
theorem suffix_of_number? {c : Char} {k : LiteralKind} (h : number? (c :: u) = some (k, r)) :
    r <:+ u := by
  have hafter {w : List Char} (hw : afterNumber? w = some r) : r <:+ w := by
    unfold afterNumber? at hw
    dsimp only at hw
    split at hw
    · cases hw
    · cases hw
      exact suffix_afterSuffix w
  unfold number? at h
  split at h
  · next hdigit =>
    split at h
    · next hfloat =>
      cases h
      obtain ⟨w, hw, hr⟩ := Option.bind_eq_some_iff.1 hfloat
      exact (hafter hr).trans (suffix_of_float? hdigit hw)
    · obtain ⟨z, hz, heq⟩ := Option.map_eq_some_iff.1 h
      cases heq
      obtain ⟨w, hw, hr⟩ := Option.bind_eq_some_iff.1 hz
      exact (hafter hr).trans (suffix_of_integer? hdigit hw)
  · cases h

end Literal

end Scaffold.Source
