import Scaffold.Json.Token

/-!
# JSON values and their spelling

What a JSON text is, said without a reader. A value is a `Tree`; a tree is written as a row of
tokens, a token as bytes, and white space may stand before each token and behind the last.
Strings are kept as they are written, by the pieces of their content, and numbers by the parts
of their numerals, so that a tree says of a text all but its white space, the case of its
hexadecimal digits and the sign in front of an exponent that is not negative.

## Main definitions

* `Tree` - a value.
* `Tree.tokens` - the tokens of a value.
* `TokenText` - the bytes that spell a token.
* `Spelled` - the bytes that spell a row of tokens.

## Main results

* `Tree.induct` - induction over the elements and members of a value.
* `Tree.separated` - in the tokens of a value no number follows a number.
* `Tree.isFaulty_eq_false` - no token of a value is faulty.
-/

namespace Scaffold.Json

/-- A JSON value. -/
inductive Tree where
  | null
  | boolean (value : Bool)
  | number (numeral : Numeral)
  | text (content : List Piece)
  | list (elements : List Tree)
  | object (members : List (List Piece × Tree))

/-- Rows of tokens with a comma between one and the next. -/
def commas (rows : List (List Token)) : List Token :=
  match rows with
  | [] => []
  | row :: rows => row ++ rows.flatMap (.comma :: ·)

namespace Tree

mutual

/-- The **tokens of a value**. -/
def tokens (t : Tree) : List Token :=
  match t with
  | .null => [.null]
  | .boolean b => [.boolean b]
  | .number n => [.number n]
  | .text content => [.string content none]
  | .list es => .openList :: (commas (elementRows es) ++ [.closeList])
  | .object ms => .openObject :: (commas (memberRows ms) ++ [.closeObject])

/-- The tokens of each element. -/
def elementRows (es : List Tree) : List (List Token) :=
  match es with
  | [] => []
  | e :: es => e.tokens :: elementRows es

/-- The tokens of each member. -/
def memberRows (ms : List (List Piece × Tree)) : List (List Token) :=
  match ms with
  | [] => []
  | (key, value) :: ms => (.string key none :: .colon :: value.tokens) :: memberRows ms

end

/-- The tokens of a member: its key, a colon and its value. -/
def memberTokens (m : List Piece × Tree) : List Token :=
  .string m.1 none :: .colon :: m.2.tokens

/-- The rows of a list are those of its elements. -/
theorem elementRows_eq (es : List Tree) : elementRows es = es.map tokens := by
  induction es with
  | nil => rw [elementRows, List.map_nil]
  | cons e es ih => rw [elementRows, ih, List.map_cons]

/-- The rows of an object are those of its members. -/
theorem memberRows_eq (ms : List (List Piece × Tree)) : memberRows ms = ms.map memberTokens := by
  induction ms with
  | nil => rw [memberRows, List.map_nil]
  | cons m ms ih => rw [memberRows, ih, List.map_cons, memberTokens]

/-- The tokens of a list. -/
theorem tokens_list (es : List Tree) :
    (list es).tokens = .openList :: (commas (es.map tokens) ++ [.closeList]) := by
  rw [tokens, elementRows_eq]

/-- The tokens of an object. -/
theorem tokens_object (ms : List (List Piece × Tree)) :
    (object ms).tokens = .openObject :: (commas (ms.map memberTokens) ++ [.closeObject]) := by
  rw [tokens, memberRows_eq]

/-! ### Induction -/

/-- **Induction over a value**: a property of every value, from the elements of a list to the
list and from the values of an object's members to the object. -/
@[elab_as_elim]
theorem induct {P : Tree → Prop} (null : P null) (boolean : ∀ b, P (boolean b))
    (number : ∀ n, P (number n)) (text : ∀ content, P (text content))
    (list : ∀ es, (∀ e ∈ es, P e) → P (list es))
    (object : ∀ ms, (∀ m ∈ ms, P m.2) → P (object ms)) (t : Tree) : P t :=
  @Tree.rec P (fun es => ∀ e ∈ es, P e) (fun ms => ∀ m ∈ ms, P m.2) (fun m => P m.2)
    null boolean number text list object
    (fun _ h => nomatch h) (fun _ _ he hes => List.forall_mem_cons.2 ⟨he, hes⟩)
    (fun _ h => nomatch h) (fun _ _ hm hms => List.forall_mem_cons.2 ⟨hm, hms⟩)
    (fun _ _ h => h) t

end Tree

/-! ### Numbers are kept apart -/

/-- Whether the token is a number. -/
def Token.isNumber (t : Token) : Bool :=
  match t with
  | .number _ => true
  | _ => false

/-- The tokens begin with no number. -/
def StartsApart (ts : List Token) : Prop :=
  ∀ t ∈ ts.head?, t.isNumber = false

/-- No number follows a number: the two would be read as one. -/
def Separated (ts : List Token) : Prop :=
  match ts with
  | [] => True
  | t :: ts => (t.isNumber = true → StartsApart ts) ∧ Separated ts

/-- A token that is no number keeps what follows it separated. -/
theorem separated_cons {t : Token} {ts : List Token} (ht : t.isNumber = false)
    (h : Separated ts) : Separated (t :: ts) := by
  refine ⟨fun hnumber => ?_, h⟩
  rw [ht] at hnumber
  cases hnumber

/-- Rows behind commas are separated if each is, whatever separated tokens follow it. -/
theorem separated_flatMap_comma {rows : List (List Token)} {rest : List Token}
    (hrows : ∀ row ∈ rows, ∀ more, Separated more → StartsApart more → Separated (row ++ more))
    (hrest : Separated rest) (hstart : StartsApart rest) :
    Separated (rows.flatMap (.comma :: ·) ++ rest) ∧
      StartsApart (rows.flatMap (.comma :: ·) ++ rest) := by
  induction rows with
  | nil => exact ⟨hrest, hstart⟩
  | cons row rows ih =>
      obtain ⟨hrow, hrows⟩ := List.forall_mem_cons.1 hrows
      obtain ⟨hmore, happart⟩ := ih hrows
      rw [List.flatMap_cons, List.cons_append, List.cons_append, List.append_assoc]
      refine ⟨separated_cons rfl (hrow _ hmore happart), fun t ht => ?_⟩
      obtain rfl : Token.comma = t := Option.some.inj ht
      rfl

/-- Rows with commas between them are separated if each is. -/
theorem separated_commas {rows : List (List Token)} {rest : List Token}
    (hrows : ∀ row ∈ rows, ∀ more, Separated more → StartsApart more → Separated (row ++ more))
    (hrest : Separated rest) (hstart : StartsApart rest) :
    Separated (commas rows ++ rest) := by
  cases rows with
  | nil => exact hrest
  | cons row rows =>
      obtain ⟨hrow, hrows⟩ := List.forall_mem_cons.1 hrows
      obtain ⟨hmore, happart⟩ := separated_flatMap_comma hrows hrest hstart
      rw [commas, List.append_assoc]
      exact hrow _ hmore happart

/-- The tokens of a value are **separated**, and from separated tokens that follow them. -/
theorem Tree.separated (t : Tree) (rest : List Token) (hrest : Separated rest)
    (hstart : StartsApart rest) : Separated (t.tokens ++ rest) := by
  have hclose : ∀ t : Token, t.isNumber = false → ∀ rest : List Token, StartsApart (t :: rest) := by
    intro t ht rest u hu
    obtain rfl : t = u := Option.some.inj hu
    exact ht
  induction t using Tree.induct generalizing rest with
  | null => exact separated_cons rfl hrest
  | boolean b => exact separated_cons rfl hrest
  | number n => exact ⟨fun _ => hstart, hrest⟩
  | text content => exact separated_cons rfl hrest
  | list es ih =>
      rw [tokens_list, List.cons_append, List.append_assoc]
      refine separated_cons rfl (separated_commas ?_ (separated_cons rfl hrest) (hclose _ rfl _))
      intro row hrow more hmore happart
      obtain ⟨e, he, rfl⟩ := List.mem_map.1 hrow
      exact ih e he more hmore happart
  | object ms ih =>
      rw [tokens_object, List.cons_append, List.append_assoc]
      refine separated_cons rfl (separated_commas ?_ (separated_cons rfl hrest) (hclose _ rfl _))
      intro row hrow more hmore happart
      obtain ⟨m, hm, rfl⟩ := List.mem_map.1 hrow
      exact separated_cons rfl (separated_cons rfl (ih m hm more hmore happart))

/-! ### No token of a value is faulty -/

/-- The tokens of rows behind commas are commas and those of the rows. -/
theorem mem_commas {rows : List (List Token)} {t : Token} (h : t ∈ commas rows) :
    t = .comma ∨ ∃ row ∈ rows, t ∈ row := by
  cases rows with
  | nil => cases h
  | cons row rows =>
      rcases List.mem_append.1 h with hrow | hrows
      · exact .inr ⟨row, List.mem_cons_self, hrow⟩
      · obtain ⟨other, hother, ht⟩ := List.mem_flatMap.1 hrows
        rcases List.mem_cons.1 ht with rfl | ht
        · exact .inl rfl
        · exact .inr ⟨other, List.mem_cons_of_mem _ hother, ht⟩

/-- The tokens of a value are **not faulty**. -/
theorem Tree.isFaulty_eq_false (v : Tree) : ∀ t ∈ v.tokens, t.isFaulty = false := by
  induction v using Tree.induct with
  | null => exact List.forall_mem_singleton.2 rfl
  | boolean b => exact List.forall_mem_singleton.2 rfl
  | number n => exact List.forall_mem_singleton.2 rfl
  | text content => exact List.forall_mem_singleton.2 rfl
  | list es ih =>
      rw [tokens_list]
      refine List.forall_mem_cons.2 ⟨rfl, List.forall_mem_append.2 ⟨fun t ht => ?_,
        List.forall_mem_singleton.2 rfl⟩⟩
      rcases mem_commas ht with rfl | ⟨row, hrow, ht⟩
      · rfl
      · obtain ⟨e, he, rfl⟩ := List.mem_map.1 hrow
        exact ih e he t ht
  | object ms ih =>
      rw [tokens_object]
      refine List.forall_mem_cons.2 ⟨rfl, List.forall_mem_append.2 ⟨fun t ht => ?_,
        List.forall_mem_singleton.2 rfl⟩⟩
      rcases mem_commas ht with rfl | ⟨row, hrow, ht⟩
      · rfl
      · obtain ⟨m, hm, rfl⟩ := List.mem_map.1 hrow
        rcases List.mem_cons.1 ht with rfl | ht
        · rfl
        · rcases List.mem_cons.1 ht with rfl | ht
          · rfl
          · exact ih m hm t ht

/-! ### How tokens are spelled -/

/-- The byte of an ASCII character. -/
def octet (c : Char) : UInt8 :=
  UInt8.ofNat c.toNat

/-- The bytes of an ASCII text. -/
def octets (cs : List Char) : List UInt8 :=
  cs.map octet

/-- A byte is the hexadecimal digit of a value, in either case. -/
def IsHexDigit (b : UInt8) (value : Nat) : Prop :=
  value < 10 ∧ b.toNat = '0'.toNat + value ∨
    10 ≤ value ∧ value < 16 ∧
      (b.toNat = 'a'.toNat + (value - 10) ∨ b.toNat = 'A'.toNat + (value - 10))

/-- The letters and marks that a backslash may precede, each with the character it stands for. -/
def escapes : List (Char × Char) :=
  [('"', '"'), ('\\', '\\'), ('/', '/'), ('b', '\x08'), ('f', '\x0C'), ('n', '\n'), ('r', '\r'),
    ('t', '\t')]

/-- The bytes that spell a piece of a string. -/
inductive PieceText : Piece → List UInt8 → Prop where
  /-- A byte that is no quote, backslash or control character stands for itself. -/
  | byte {b : UInt8} : 0x20 ≤ b.toNat → b ≠ octet '"' → b ≠ octet '\\' → PieceText (.byte b) [b]
  /-- An escape by name. -/
  | named {e c : Char} : (e, c) ∈ escapes → PieceText (.named c) [octet '\\', octet e]
  /-- An escape by number, of four hexadecimal digits. -/
  | unit {a b c d : UInt8} {x y z w : Nat} :
      IsHexDigit a x → IsHexDigit b y → IsHexDigit c z → IsHexDigit d w →
      PieceText (.unit (4096 * x + 256 * y + 16 * z + w)) [octet '\\', octet 'u', a, b, c, d]

/-- The bytes that spell the content of a string. -/
inductive ContentText : List Piece → List UInt8 → Prop where
  | nil : ContentText [] []
  | cons {p : Piece} {ps : List Piece} {xs ys : List UInt8} :
      PieceText p xs → ContentText ps ys → ContentText (p :: ps) (xs ++ ys)

/-- Digits: numbers below ten, one at least. -/
def IsDigits (ds : List Nat) : Prop :=
  ds ≠ [] ∧ ∀ d ∈ ds, d < 10

/-- The bytes of digits. -/
def digitBytes (ds : List Nat) : List UInt8 :=
  ds.map fun d => UInt8.ofNat ('0'.toNat + d)

/-- The bytes that spell the fraction of a numeral: nothing, or a point and digits. -/
inductive FractionText : Option (List Nat) → List UInt8 → Prop where
  | none : FractionText none []
  | some {ds : List Nat} : IsDigits ds → FractionText (some ds) (octet '.' :: digitBytes ds)

/-- The bytes that spell the sign of an exponent. A plus sign may be left out. -/
inductive SignText : Bool → List UInt8 → Prop where
  | minus : SignText true [octet '-']
  | plus : SignText false [octet '+']
  | none : SignText false []

/-- The bytes that spell the exponent of a numeral: nothing, or an `e` of either case, a sign
and digits. -/
inductive ExponentText : Option (Bool × List Nat) → List UInt8 → Prop where
  | none : ExponentText none []
  | some {negative : Bool} {ds : List Nat} {e : Char} {sign : List UInt8} :
      e = 'e' ∨ e = 'E' → SignText negative sign → IsDigits ds →
      ExponentText (some (negative, ds)) (octet e :: (sign ++ digitBytes ds))

/-- The bytes of a minus sign, if there is one. -/
def minusBytes (negative : Bool) : List UInt8 :=
  if negative then [octet '-'] else []

/-- The bytes that spell a numeral. A zero in front is the only digit before the point. -/
inductive NumeralText : Numeral → List UInt8 → Prop where
  | intro {n : Numeral} {fraction exponent : List UInt8} :
      IsDigits n.whole → (n.whole.head? = some 0 → n.whole = [0]) →
      FractionText n.fraction fraction → ExponentText n.exponent exponent →
      NumeralText n (minusBytes n.negative ++ digitBytes n.whole ++ fraction ++ exponent)

/-- The **bytes that spell a token**. -/
inductive TokenText : Token → List UInt8 → Prop where
  | nullWord : TokenText .null (octets ['n', 'u', 'l', 'l'])
  | trueWord : TokenText (.boolean true) (octets ['t', 'r', 'u', 'e'])
  | falseWord : TokenText (.boolean false) (octets ['f', 'a', 'l', 's', 'e'])
  | number {n : Numeral} {bs : List UInt8} : NumeralText n bs → TokenText (.number n) bs
  | string {ps : List Piece} {bs : List UInt8} : ContentText ps bs →
      TokenText (.string ps none) (octet '"' :: (bs ++ [octet '"']))
  | openList : TokenText .openList [octet '[']
  | closeList : TokenText .closeList [octet ']']
  | openObject : TokenText .openObject [octet '{']
  | closeObject : TokenText .closeObject [octet '}']
  | comma : TokenText .comma [octet ',']
  | colon : TokenText .colon [octet ':']

/-- White space: space, tab, line feed and carriage return. -/
def IsGap (bs : List UInt8) : Prop :=
  ∀ b ∈ bs, b = octet ' ' ∨ b = octet '\t' ∨ b = octet '\n' ∨ b = octet '\r'

/-- The **bytes that spell a row of tokens**, with white space before each and behind the
last. -/
inductive Spelled : List Token → List UInt8 → Prop where
  | nil {gap : List UInt8} : IsGap gap → Spelled [] gap
  | cons {t : Token} {ts : List Token} {gap word rest : List UInt8} :
      IsGap gap → TokenText t word → Spelled ts rest → Spelled (t :: ts) (gap ++ (word ++ rest))

end Scaffold.Json
