import Scaffold.Text.Decomposition

/-!
# Normal form

One text can be spelled in several ways: a letter with a mark is one character or two, and marks at
different places of a letter may be written in any order. A text is brought to *normal form C* of
the Unicode standard in three steps. Its characters are decomposed, the marks behind each letter are
put in order, and the letters are composed with the marks behind them as far as there are characters
for that. A compiler takes names for one if they have one normal form.

## Main definitions

* `decompose`, `order`, `compose` - the steps.
* `normalForm` - the normal form of a text.

## Main results

* `normalForm_eq_self` - a text of ASCII characters and those next to them is its own normal form.
-/

namespace Scaffold.Text

/-! ### Decomposition -/

/-- The characters of a syllable of Hangul, which number what the syllable is made of. -/
def decomposeSyllable (code : Nat) : List Nat :=
  let i := code - 0xAC00
  [0x1100 + i / 588, 0x1161 + i % 588 / 28] ++ if i % 28 = 0 then [] else [0x11A7 + i % 28]

/-- The code that replaces another one. -/
def singleton? (code : Nat) : Option Nat :=
  singletons.findSome? fun (first, codes) => if first ≤ code then codes[code - first]? else none

/-- The **decomposition** of a character. -/
def decompose (c : Char) : List Char :=
  if c.toNat < 0xC0 then [c]
  else if 0xAC00 ≤ c.toNat && c.toNat ≤ 0xD7A3 then (decomposeSyllable c.toNat).map Char.ofNat
  else
    match canonical.lookup c.toNat with
    | some codes => codes.map Char.ofNat
    | none => [((singleton? c.toNat).map Char.ofNat).getD c]

/-! ### The order of marks -/

/-- The **combining class** of a character: that of letters is zero, and marks of one class are at
one place of a letter. -/
def combiningClass (c : Char) : Nat :=
  if c.toNat < 0x300 then 0
  else
    (combiningClasses.find? fun (first, last, _) => first ≤ c.toNat && c.toNat ≤ last).elim 0
      fun (_, _, value) => value

/-- Puts a character in front of a text, behind the marks of smaller classes at its beginning. -/
def insertMark (c : Char) (cs : List Char) : List Char :=
  match cs with
  | [] => [c]
  | d :: rest =>
    if 0 < combiningClass d && combiningClass d < combiningClass c then d :: insertMark c rest
    else c :: cs

/-- Puts the marks behind each letter **in the order of their classes**. -/
def order (cs : List Char) : List Char :=
  cs.foldr insertMark []

/-! ### Composition -/

/-- The syllable of Hangul that two characters compose to. -/
def syllable? (a b : Nat) : Option Nat :=
  if 0x1100 ≤ a && a < 0x1113 && 0x1161 ≤ b && b < 0x1176 then
    some (0xAC00 + ((a - 0x1100) * 21 + (b - 0x1161)) * 28)
  else if 0xAC00 ≤ a && a ≤ 0xD7A3 && (a - 0xAC00) % 28 = 0 && 0x11A7 < b && b < 0x11C3 then
    some (a + (b - 0x11A7))
  else none

/-- The character that two characters **compose to**, of which the second is decomposed. -/
def composite? (a b : Char) : Option Char :=
  if b.toNat < 0x300 then none
  else
    let parts := (decompose a).map Char.toNat ++ [b.toNat]
    let entry := canonical.find? fun (code, codes) =>
      codes = parts && !uncomposed.contains (Char.ofNat code)
    ((syllable? a.toNat b.toNat).or (entry.map Prod.fst)).map Char.ofNat

/-- Whether marks keep a character behind them from being composed with the letter in front. -/
def blocks (marks : List Char) (c : Char) : Bool :=
  match marks.getLast? with
  | none => false
  | some m => combiningClass c ≤ combiningClass m

/-- Composes a letter and the marks that stay behind it with the text that follows. -/
def composeFrom (letter : Char) (marks : List Char) (cs : List Char) : List Char :=
  match cs with
  | [] => letter :: marks
  | c :: rest =>
    match if blocks marks c then none else composite? letter c with
    | some composed => composeFrom composed marks rest
    | none =>
      if combiningClass c = 0 then letter :: marks ++ composeFrom c [] rest
      else composeFrom letter (marks ++ [c]) rest

/-- **Composes** the letters of a text with the marks behind them. -/
def compose (cs : List Char) : List Char :=
  match cs with
  | [] => []
  | c :: rest => if combiningClass c = 0 then composeFrom c [] rest else c :: compose rest

/-- The **normal form** of a text. -/
@[irreducible]
def normalForm (cs : List Char) : List Char :=
  compose (order (cs.flatMap decompose))

/-! ### Plain text -/

/-- A character in front of the first mark has the class of a letter. -/
theorem combiningClass_of_lt {c : Char} (h : c.toNat < 0x300) : combiningClass c = 0 :=
  if_pos h

/-- Nothing is composed with a character in front of the first mark. -/
theorem composite?_of_lt (a : Char) {b : Char} (h : b.toNat < 0x300) : composite? a b = none :=
  if_pos h

/-- Characters in front of the first that is composed are not decomposed. -/
theorem decompose_of_lt {cs : List Char} (h : ∀ c ∈ cs, c.toNat < 0xC0) :
    cs.flatMap decompose = cs := by
  induction cs with
  | nil => rfl
  | cons c rest ih =>
    obtain ⟨hc, hrest⟩ := List.forall_mem_cons.1 h
    rw [List.flatMap_cons, ih hrest, decompose, if_pos hc]
    rfl

/-- Letters are in order. -/
theorem order_of_lt {cs : List Char} (h : ∀ c ∈ cs, c.toNat < 0x300) : order cs = cs := by
  induction cs with
  | nil => rfl
  | cons c rest ih =>
    obtain ⟨-, hrest⟩ := List.forall_mem_cons.1 h
    rw [order, List.foldr_cons, ← order, ih hrest]
    cases rest with
    | nil => rfl
    | cons d rest =>
      have hd : combiningClass d = 0 := combiningClass_of_lt (hrest d List.mem_cons_self)
      rw [insertMark, hd]
      rfl

/-- Letters are not composed with each other. -/
theorem composeFrom_of_lt (letter : Char) {cs : List Char} (h : ∀ c ∈ cs, c.toNat < 0x300) :
    composeFrom letter [] cs = letter :: cs := by
  induction cs generalizing letter with
  | nil => rfl
  | cons c rest ih =>
    obtain ⟨hc, hrest⟩ := List.forall_mem_cons.1 h
    rw [composeFrom, composite?_of_lt letter hc, ite_self, combiningClass_of_lt hc, if_pos rfl,
      ih c hrest]
    rfl

/-- A text of ASCII characters and those next to them **is its own normal form**. -/
theorem normalForm_eq_self {cs : List Char} (h : cs.all (·.toNat < 0xC0) = true) :
    normalForm cs = cs := by
  have hplain : ∀ c ∈ cs, c.toNat < 0xC0 := by simpa using h
  have hlt : ∀ c ∈ cs, c.toNat < 0x300 := fun c hc => Nat.lt_trans (hplain c hc) (by decide)
  rw [normalForm, decompose_of_lt hplain, order_of_lt hlt]
  cases cs with
  | nil => rfl
  | cons c rest =>
    obtain ⟨hc, hrest⟩ := List.forall_mem_cons.1 hlt
    rw [compose, combiningClass_of_lt hc, if_pos rfl, composeFrom_of_lt c hrest]

/-- A letter and a mark behind it have the normal form of the letter with the mark. -/
example : normalForm "e\u0301".toList = "\u00E9".toList := by decide +kernel

end Scaffold.Text
