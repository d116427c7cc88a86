import Mathlib.Data.List.Forall2
import Scaffold.Json.Value
import Scaffold.Proofs.Json.Record
import Scaffold.Proofs.Json.Unique

/-!
# What is written spells the value

A value is written as one compact text. That text spells a tree, and the tree denotes the value:
its strings stand for the texts of the value, however they are escaped, and its numerals for the
numbers. So a reader can be asked about the trees that denote a value, and need not know how
values are written. A tree denotes one value, and so the text of a value says this value and no
other.

## Main definitions

* `Denotes` - what a tree says as a value.
* `WrittenFor` - text that spells pieces of a string for a character.
* `Spells` - text that spells tokens in front of whatever else is spelled.
* `Says` - what a text says as a value.
* `WritesFields` - the fields of a record as they are written.

## Main results

* `Value.induct` - induction over the elements and members of a value.
* `writtenFor_escape`, `exists_content` - characters and strings as they are written.
* `exists_spelled_render` - the text of a value spells a tree that denotes it.
* `says_render_iff` - the text of a value says the value alone.
* `isRecord_of_denotes` - a record that is written with all its fields is read as itself.
-/

namespace Scaffold.Json

open Text (Utf8.encode Utf8.encode_append Utf8.mem_encodeChar_cases)
open Scaffold.Json.Tree (memberTokens)

/-! ### What a tree denotes -/

/-- **The tree denotes the value.** A string denotes the text that it stands for, and digits
denote a number; elements and members are denoted one by one. -/
inductive Denotes : Tree → Value → Prop where
  | null : Denotes .null .null
  | boolean (b : Bool) : Denotes (.boolean b) (.boolean b)
  | number {ds : List Nat} {n : Nat} : ds.foldl (fun m d => 10 * m + d) 0 = n →
      Denotes (.number ⟨false, ds, none, none⟩) (.number n)
  | text {content : List Piece} {s : String} : Means content s →
      Denotes (.text content) (.text s)
  | list {es : List Tree} {vs : List Value} : List.Forall₂ Denotes es vs →
      Denotes (.list es) (.list vs)
  | object {ms : List (List Piece × Tree)} {vs : List (String × Value)} :
      List.Forall₂ Means (ms.map (·.1)) (vs.map (·.1)) →
      List.Forall₂ Denotes (ms.map (·.2)) (vs.map (·.2)) →
      Denotes (.object ms) (.object vs)

/-- What denotes an object is one, and its members denote those of the object one by one. -/
theorem denotes_object_iff {t : Tree} {vs : List (String × Value)} :
    Denotes t (.object vs) ↔ ∃ ms, t = .object ms ∧
      List.Forall₂ (fun m v => Means m.1 v.1 ∧ Denotes m.2 v.2) ms vs := by
  constructor
  · rintro (_ | _ | _ | _ | _ | ⟨hkeys, hvalues⟩)
    rw [List.forall₂_map_left_iff, List.forall₂_map_right_iff] at hkeys hvalues
    exact ⟨_, rfl, hkeys.mp (fun _ _ hkey hvalue => ⟨hkey, hvalue⟩) hvalues⟩
  · rintro ⟨ms, rfl, hms⟩
    refine .object ?_ ?_
    · rw [List.forall₂_map_left_iff, List.forall₂_map_right_iff]
      exact hms.imp fun _ _ h => h.1
    · rw [List.forall₂_map_left_iff, List.forall₂_map_right_iff]
      exact hms.imp fun _ _ h => h.2

/-- What denotes a list is one, and its elements denote those of the list one by one. -/
theorem denotes_list_iff {t : Tree} {vs : List Value} :
    Denotes t (.list vs) ↔ ∃ es, t = .list es ∧ List.Forall₂ Denotes es vs := by
  constructor
  · rintro (_ | _ | _ | _ | hes)
    exact ⟨_, rfl, hes⟩
  · rintro ⟨es, rfl, hes⟩
    exact .list hes

namespace Value

/-- **Induction over a value**: a property of every value, from the elements of a list to the
list and from the values of an object's members to the object. -/
@[elab_as_elim]
theorem induct {P : Value → Prop} (null : P null) (boolean : ∀ b, P (boolean b))
    (number : ∀ n, P (number n)) (text : ∀ s, P (text s))
    (list : ∀ vs, (∀ v ∈ vs, P v) → P (list vs))
    (object : ∀ ms, (∀ m ∈ ms, P m.2) → P (object ms)) (v : Value) : P v :=
  @Value.rec P (fun vs => ∀ v ∈ vs, P v) (fun ms => ∀ m ∈ ms, P m.2) (fun m => P m.2)
    null boolean number text list object
    (fun _ h => nomatch h) (fun _ _ hv hvs => List.forall_mem_cons.2 ⟨hv, hvs⟩)
    (fun _ h => nomatch h) (fun _ _ hm hms => List.forall_mem_cons.2 ⟨hm, hms⟩)
    (fun _ _ h => h) v

/-- The text of a member: its name, a colon and its value. -/
def memberChars (m : String × Value) : List Char :=
  quoteChars m.1.toList ++ ':' :: m.2.renderChars

/-- The texts of a list are those of its elements. -/
theorem renderAll_eq (vs : List Value) : renderAll vs = vs.map renderChars := by
  induction vs with
  | nil => rw [renderAll, List.map_nil]
  | cons v vs ih => rw [renderAll, ih, List.map_cons]

/-- The texts of an object are those of its members. -/
theorem renderMembers_eq (ms : List (String × Value)) : renderMembers ms = ms.map memberChars := by
  induction ms with
  | nil => rw [renderMembers, List.map_nil]
  | cons m ms ih => rw [renderMembers, ih, List.map_cons, memberChars]

end Value

/-! ### Bytes of texts -/

/-- The bytes of an ASCII text are one for each character. -/
theorem encode_eq_octets {cs : List Char} (h : ∀ c ∈ cs, c.toNat < 0x80) :
    Utf8.encode cs = octets cs := by
  induction cs with
  | nil => rfl
  | cons c cs ih =>
      obtain ⟨hc, hcs⟩ := List.forall_mem_cons.1 h
      rw [Utf8.encode, List.flatMap_cons, Text.Utf8.encodeChar_one hc]
      exact congrArg (octet c :: ·) (ih hcs)

/-- An ASCII character has its byte in no other character. -/
theorem ne_octet_of_mem_encodeChar {c d : Char} (hd : d.toNat < 0x80) (h : c ≠ d) {b : UInt8}
    (hb : b ∈ String.utf8EncodeChar c) : b ≠ octet d := by
  rintro rfl
  have hbyte : (octet d).toNat = d.toNat := Text.Utf8.byte_toNat (by omega)
  rcases Utf8.mem_encodeChar_cases hb with hc | hlarge
  · exact h (Char.toNat_inj.1 (hc.symm.trans hbyte))
  · omega

/-! ### Strings -/

/-- The contents of two strings in a row. -/
theorem ContentText.append {ps qs : List Piece} {xs ys : List UInt8} (h : ContentText ps xs)
    (h' : ContentText qs ys) : ContentText (ps ++ qs) (xs ++ ys) := by
  induction h with
  | nil => exact h'
  | cons hp _ ih =>
      rw [List.append_assoc]
      exact .cons hp ih

/-- Bytes that are no quotes, backslashes or control characters spell themselves. -/
theorem contentText_bytes {bs : List UInt8}
    (h : ∀ b ∈ bs, 0x20 ≤ b.toNat ∧ b ≠ octet '"' ∧ b ≠ octet '\\') :
    ContentText (bs.map .byte) bs := by
  induction bs with
  | nil => exact .nil
  | cons b bs ih =>
      obtain ⟨⟨hcontrol, hquote, hbackslash⟩, hbs⟩ := List.forall_mem_cons.1 h
      exact .cons (.byte hcontrol hquote hbackslash) (ih hbs)

/-- Bytes that stand for themselves, and those of the pieces behind them. -/
theorem Codes.bytes_append {ps : List Piece} {bs : List UInt8} (h : Codes ps bs)
    (front : List UInt8) : Codes (front.map .byte ++ ps) (front ++ bs) := by
  induction front with
  | nil => exact h
  | cons b front ih => exact .byte ih

/-- A digit of a numbered escape, as it is written. -/
theorem isHexDigit_hexDigit : ∀ d < 16, IsHexDigit (octet (hexDigit d)) d := by
  unfold IsHexDigit
  decide

/-- The text is written for a character: it **spells pieces that stand for the character**,
whatever stands behind them. -/
def WrittenFor (text : List Char) (c : Char) : Prop :=
  ∃ ps, ContentText ps (Utf8.encode text) ∧
    ∀ more bs, Codes more bs → Codes (ps ++ more) (String.utf8EncodeChar c ++ bs)

/-- An escape by name is written for its character. -/
theorem writtenFor_named {e c : Char} (he : (e, c) ∈ escapes) : WrittenFor ['\\', e] c := by
  have hletters : ∀ d ∈ escapes, d.1.toNat < 0x80 := by decide
  have hascii : ∀ x ∈ ['\\', e], x.toNat < 0x80 :=
    List.forall_mem_cons.2 ⟨by decide, List.forall_mem_singleton.2 (hletters _ he)⟩
  refine ⟨[.named c], ?_, fun more bs h => .named h⟩
  rw [encode_eq_octets hascii]
  exact .cons (.named he) .nil

/-- An escape by number is written for a control character. -/
theorem writtenFor_unit {c : Char} (hc : c.toNat < 0x20) :
    WrittenFor ['\\', 'u', '0', '0', hexDigit (c.toNat / 16), hexDigit (c.toNat % 16)] c := by
  have hhigh := isHexDigit_hexDigit (c.toNat / 16) (by omega)
  have hlow := isHexDigit_hexDigit (c.toNat % 16) (by omega)
  have hzero := isHexDigit_hexDigit 0 (by decide)
  have hdigits : ∀ d < 16, (hexDigit d).toNat < 0x80 := by decide
  have hunit : 4096 * 0 + 256 * 0 + 16 * (c.toNat / 16) + c.toNat % 16 = c.toNat := by omega
  refine ⟨[.unit c.toNat], ?_, fun more bs h => ?_⟩
  · rw [encode_eq_octets]
    · exact .cons (hunit ▸ PieceText.unit hzero hzero hhigh hlow) .nil
    · simp only [List.forall_mem_cons]
      exact ⟨by decide, by decide, by decide, by decide, hdigits _ (by omega),
        hdigits _ (by omega), nofun⟩
  · have hcode := Codes.unit (u := c.toNat) (by omega) h
    rwa [Char.ofNat_toNat] at hcode

/-- A character that is no quote, backslash or control character is written for itself. -/
theorem writtenFor_self {c : Char} (hc : 0x20 ≤ c.toNat) (hquote : c ≠ '"')
    (hbackslash : c ≠ '\\') : WrittenFor [c] c := by
  refine ⟨(String.utf8EncodeChar c).map .byte, ?_, fun more bs h => h.bytes_append _⟩
  rw [Utf8.encode, List.flatMap_singleton]
  refine contentText_bytes fun b hb => ⟨?_, ne_octet_of_mem_encodeChar (by decide) hquote hb,
    ne_octet_of_mem_encodeChar (by decide) hbackslash hb⟩
  rcases Utf8.mem_encodeChar_cases hb with hb | hb
  · omega
  · omega

/-- **What is written for a character** in a string: the escape that it has, if it is a quote, a
backslash or a control character, and else the character. -/
theorem writtenFor_escape (c : Char) : WrittenFor (escape c) c := by
  unfold escape
  split
  · exact writtenFor_named (by decide)
  · exact writtenFor_named (by decide)
  · exact writtenFor_named (by decide)
  · exact writtenFor_named (by decide)
  · exact writtenFor_named (by decide)
  · exact writtenFor_named (by decide)
  · exact writtenFor_named (by decide)
  · next hquote hbackslash _ _ _ _ _ =>
    split
    · next hcontrol => exact writtenFor_unit hcontrol
    · next hcontrol => exact writtenFor_self (by omega) hquote hbackslash

/-- What is written for the characters of a text stands for the text. -/
theorem exists_codes (cs : List Char) :
    ∃ ps, Codes ps (Utf8.encode cs) ∧ ContentText ps (Utf8.encode (cs.flatMap escape)) := by
  induction cs with
  | nil => exact ⟨[], .nil, .nil⟩
  | cons c cs ih =>
      obtain ⟨qs, hcodes, hcontent⟩ := ih
      obtain ⟨ps, hps, hc⟩ := writtenFor_escape c
      refine ⟨ps ++ qs, hc _ _ hcodes, ?_⟩
      rw [List.flatMap_cons, Utf8.encode_append]
      exact hps.append hcontent

/-- **A string as it is written** has content that stands for its text. -/
theorem exists_content (s : String) :
    ∃ ps, Means ps s ∧ TokenText (.string ps none) (Utf8.encode (quoteChars s.toList)) := by
  obtain ⟨ps, hcodes, hcontent⟩ := exists_codes s.toList
  refine ⟨ps, hcodes, ?_⟩
  have hquotes : Utf8.encode (quoteChars s.toList) =
      octet '"' :: (Utf8.encode (s.toList.flatMap escape) ++ [octet '"']) := by
    rw [quoteChars, Utf8.encode_append]
    rfl
  rw [hquotes]
  exact .string hcontent

/-! ### Numbers -/

/-- **A number as it is written** is a numeral of digits that denote it. The first is a zero only
if it is the only one. -/
theorem exists_digits (n : Nat) :
    ∃ ds, ds.foldl (fun m d => 10 * m + d) 0 = n ∧ IsDigits ds ∧
      (ds.head? = some 0 → ds = [0]) ∧ Utf8.encode (Nat.toDigits 10 n) = digitBytes ds := by
  have hchar : ∀ d < 10, Utf8.encode [d.digitChar] = digitBytes [d] := by decide
  induction n using Nat.strongRecOn with
  | ind n ih =>
    by_cases hn : n < 10
    · refine ⟨[n], by simp, ⟨by simp, by simpa⟩, by simp, ?_⟩
      rw [Nat.toDigits_of_lt_base hn, hchar n hn]
    · have hlast : n % 10 < 10 := Nat.mod_lt _ (by decide)
      obtain ⟨ds, hvalue, ⟨hne, hdigits⟩, hhead, hbytes⟩ := ih (n / 10) (by omega)
      obtain ⟨d, ds, rfl⟩ := List.exists_cons_of_ne_nil hne
      refine ⟨d :: ds ++ [n % 10], ?_, ⟨by simp, ?_⟩, fun hzero => ?_, ?_⟩
      · rw [List.foldl_append, hvalue, List.foldl_cons, List.foldl_nil]
        omega
      · exact List.forall_mem_append.2 ⟨hdigits, List.forall_mem_singleton.2 hlast⟩
      · have hone := hhead hzero
        rw [hone] at hvalue
        simp only [List.foldl_cons, List.foldl_nil] at hvalue
        omega
      · rw [Nat.toDigits_of_base_le (by decide) (by omega), Utf8.encode_append, hbytes,
          hchar _ hlast, digitBytes, digitBytes, digitBytes, List.map_append]

/-! ### Values -/

/-- The text **spells the tokens in front** of whatever else is spelled. -/
def Spells (row : List Token) (text : List Char) : Prop :=
  ∀ ts bs, Spelled ts bs → Spelled (row ++ ts) (Utf8.encode text ++ bs)

/-- A text that spells one token. -/
theorem spells_token {t : Token} (text : List Char) (h : TokenText t (Utf8.encode text)) :
    Spells [t] text := by
  intro ts bs hrest
  have hgap : IsGap [] := nofun
  exact .cons hgap h hrest

/-- Texts in a row spell tokens in a row. -/
theorem Spells.append {row row' : List Token} {text text' : List Char} (h : Spells row text)
    (h' : Spells row' text') : Spells (row ++ row') (text ++ text') := by
  intro ts bs hrest
  rw [List.append_assoc, Utf8.encode_append, List.append_assoc]
  exact h _ _ (h' _ _ hrest)

/-- Texts with commas between them spell rows with commas between them. -/
theorem spells_commas {rows : List (List Token)} {texts : List (List Char)}
    (h : List.Forall₂ Spells rows texts) : Spells (commas rows) (Value.commaSeparated texts) := by
  have hcomma : Spells [.comma] [','] := spells_token [','] .comma
  cases h with
  | nil => exact fun _ _ hrest => hrest
  | @cons row text rows texts hrow hrows =>
      induction hrows generalizing row text with
      | nil =>
          rw [commas, List.flatMap_nil, List.append_nil]
          exact hrow
      | cons hrow' _ ih => exact hrow.append (hcomma.append (ih hrow'))

/-- Where every element is related to something, so is the list. -/
theorem exists_forall₂ {α β : Type} {R : α → β → Prop} {bs : List β} (h : ∀ b ∈ bs, ∃ a, R a b) :
    ∃ as, List.Forall₂ R as bs := by
  induction bs with
  | nil => exact ⟨[], .nil⟩
  | cons b bs ih =>
      obtain ⟨⟨a, ha⟩, hbs⟩ := List.forall_mem_cons.1 h
      obtain ⟨as, has⟩ := ih hbs
      exact ⟨a :: as, .cons ha has⟩

/-- The digits of a number spell a tree that denotes it. -/
theorem exists_spells_number (n : Nat) :
    ∃ t, Denotes t (.number n) ∧ Spells t.tokens (Value.number n).renderChars := by
  obtain ⟨ds, hvalue, hdigits, hhead, hbytes⟩ := exists_digits n
  refine ⟨_, .number hvalue, spells_token _ (.number ?_)⟩
  have hnumeral := NumeralText.intro (n := ⟨false, ds, none, none⟩) hdigits hhead .none .none
  rw [Value.renderChars, hbytes]
  simpa [minusBytes] using hnumeral

/-- A member is spelled by its key, a colon and what spells its value. -/
theorem exists_spells_member {v : String × Value}
    (h : ∃ t, Denotes t v.2 ∧ Spells t.tokens v.2.renderChars) :
    ∃ m : List Piece × Tree, Means m.1 v.1 ∧ Denotes m.2 v.2 ∧
      Spells (memberTokens m) (Value.memberChars v) := by
  obtain ⟨key, hmeans, hkey⟩ := exists_content v.1
  obtain ⟨t, hdenotes, hvalue⟩ := h
  refine ⟨(key, t), hmeans, hdenotes, ?_⟩
  exact (spells_token _ hkey).append ((spells_token [':'] .colon).append hvalue)

/-- The text of a value, in front of whatever follows it, spells a tree that denotes the value. -/
theorem exists_spells_render (v : Value) : ∃ t, Denotes t v ∧ Spells t.tokens v.renderChars := by
  induction v using Value.induct with
  | null => exact ⟨.null, .null, spells_token ['n', 'u', 'l', 'l'] .nullWord⟩
  | boolean b =>
      refine ⟨.boolean b, .boolean b, ?_⟩
      cases b with
      | true => exact spells_token ['t', 'r', 'u', 'e'] .trueWord
      | false => exact spells_token ['f', 'a', 'l', 's', 'e'] .falseWord
  | number n => exact exists_spells_number n
  | text s =>
      obtain ⟨ps, hmeans, htoken⟩ := exists_content s
      exact ⟨.text ps, .text hmeans, spells_token _ htoken⟩
  | list vs ih =>
      obtain ⟨es, hes⟩ := exists_forall₂ ih
      refine ⟨.list es, .list (hes.imp fun _ _ h => h.1), ?_⟩
      have hrows : List.Forall₂ Spells (es.map Tree.tokens) (vs.map Value.renderChars) := by
        rw [List.forall₂_map_left_iff, List.forall₂_map_right_iff]
        exact hes.imp fun _ _ h => h.2
      rw [Tree.tokens_list, Value.renderChars, Value.renderAll_eq]
      exact (spells_token ['['] .openList).append
        ((spells_commas hrows).append (spells_token [']'] .closeList))
  | object vs ih =>
      obtain ⟨ms, hms⟩ := exists_forall₂ fun v hv => exists_spells_member (ih v hv)
      refine ⟨.object ms, denotes_object_iff.2 ⟨ms, rfl, hms.imp fun _ _ h => ⟨h.1, h.2.1⟩⟩, ?_⟩
      have hrows : List.Forall₂ Spells (ms.map memberTokens) (vs.map Value.memberChars) := by
        rw [List.forall₂_map_left_iff, List.forall₂_map_right_iff]
        exact hms.imp fun _ _ h => h.2.2
      rw [Tree.tokens_object, Value.renderChars, Value.renderMembers_eq]
      exact (spells_token ['{'] .openObject).append
        ((spells_commas hrows).append (spells_token ['}'] .closeObject))

/-- **What is written for a value spells a tree that denotes it.** -/
theorem exists_spelled_render (v : Value) :
    ∃ t, Denotes t v ∧ Spelled t.tokens (Utf8.encode v.render.toList) := by
  obtain ⟨t, hdenotes, hspells⟩ := exists_spells_render v
  refine ⟨t, hdenotes, ?_⟩
  have hspelled := hspells [] [] (.nil nofun)
  rwa [List.append_nil, List.append_nil, ← String.toList_ofList (l := v.renderChars)] at hspelled

/-! ### What a text says -/

/-- Lists that one list is related to are the same if its elements are related to one thing each. -/
theorem eq_of_forall₂ {α β : Type} {R : α → β → Prop} {as : List α} {bs bs' : List β}
    (hunique : ∀ b ∈ bs, ∀ a b', R a b → R a b' → b = b') (h : List.Forall₂ R as bs)
    (h' : List.Forall₂ R as bs') : bs = bs' := by
  induction h generalizing bs' with
  | nil =>
      cases h'
      rfl
  | cons hb _ ih =>
      cases h' with
      | cons hb' hrest =>
          obtain ⟨hfirst, hbs⟩ := List.forall_mem_cons.1 hunique
          rw [hfirst _ _ hb hb', ih hbs hrest]

/-- **A tree denotes one value** at most. -/
theorem Denotes.unique {t : Tree} {v v' : Value} (h : Denotes t v) (h' : Denotes t v') :
    v = v' := by
  induction v using Value.induct generalizing t v' with
  | null =>
      cases h
      cases h'
      rfl
  | boolean b =>
      cases h
      cases h'
      rfl
  | number n =>
      cases h with
      | number hn =>
          cases h' with
          | number hn' => rw [← hn, ← hn']
  | text s =>
      cases h with
      | text hs =>
          cases h' with
          | text hs' => rw [hs.unique hs']
  | list vs ih =>
      obtain ⟨es, rfl, hes⟩ := denotes_list_iff.1 h
      cases h' with
      | list hes' =>
          refine congrArg Value.list (eq_of_forall₂ (fun v hv e v' he he' => ?_) hes hes')
          exact ih v hv he he'
  | object vs ih =>
      obtain ⟨ms, rfl, hms⟩ := denotes_object_iff.1 h
      cases h' with
      | object hkeys hvalues =>
          obtain ⟨_, hms', hall⟩ := denotes_object_iff.1 (.object hkeys hvalues)
          cases hms'
          refine congrArg Value.object (eq_of_forall₂ (fun v hv m v' hm hm' => ?_) hms hall)
          exact Prod.ext (hm.1.unique hm'.1) (ih v hv hm.2 hm'.2)

/-- **The text says the value**: it is JSON, with white space around and between the tokens, and the
value is what it denotes. -/
def Says (bs : List UInt8) (v : Value) : Prop :=
  ∃ t : Tree, Spelled t.tokens bs ∧ Denotes t v

/-- A text **says one value** at most. -/
theorem Says.unique {bs : List UInt8} {v v' : Value} (h : Says bs v) (h' : Says bs v') :
    v = v' := by
  obtain ⟨t, ht, hv⟩ := h
  obtain ⟨t', ht', hv'⟩ := h'
  obtain rfl := ht.unique ht'
  exact hv.unique hv'

/-- What is written for a value **says the value**, and says nothing else. -/
theorem says_render_iff {v v' : Value} : Says (Utf8.encode v.render.toList) v' ↔ v' = v := by
  obtain ⟨t, hdenotes, hspelled⟩ := exists_spelled_render v
  have hself : Says (Utf8.encode v.render.toList) v := ⟨t, hspelled, hdenotes⟩
  constructor
  · exact fun h => h.unique hself
  · rintro rfl
    exact hself

/-! ### The shapes of written values -/

/-- What denotes a text is read as the text. -/
theorem isText_of_denotes {s : String} {t : Tree} (h : Denotes t (.text s)) : IsText t s := by
  rcases h with _ | _ | _ | hmeans
  exact ⟨_, rfl, hmeans⟩

/-- What denotes a truth value is read as it. -/
theorem isBoolean_of_denotes {b : Bool} {t : Tree} (h : Denotes t (.boolean b)) :
    IsBoolean t b := by
  cases h
  rfl

/-- What denotes a list is read as the elements, if what denotes an element is read as it. -/
theorem isList_of_denotes {α : Type} {R : Tree → α → Prop} {write : α → Value} {as : List α}
    (hwrite : ∀ e a, Denotes e (write a) → R e a) {t : Tree}
    (h : Denotes t (.list (as.map write))) : IsList R t as := by
  obtain ⟨es, rfl, hes⟩ := denotes_list_iff.1 h
  rw [List.forall₂_map_right_iff] at hes
  exact ⟨es, rfl, hes.imp hwrite⟩

/-- What denotes a value other than null is not taken for a field without one. -/
theorem nullOr_of_denotes {α : Type} {blank a : α} {R : Tree → α → Prop} {t : Tree} {v : Value}
    (h : Denotes t v) (hR : R t a) (hv : v ≠ .null) : NullOr blank R t a := by
  cases h with
  | null => exact absurd rfl hv
  | _ => exact hR

variable {σ : Type}

/-- Among entries under the names of the fields in turn, each field has its own alone. -/
theorem filter_entries_eq {slots : List (Slot σ)} {entries : List (String × Tree)}
    (hapart : slots.Pairwise Slot.Apart) (h : entries.map (·.1) = slots.map (·.name)) :
    List.Forall₂ (fun a e => entries.filter (fun e' => e'.1 ∈ a.names) = [e]) slots entries := by
  induction slots generalizing entries with
  | nil =>
      obtain rfl := List.map_eq_nil_iff.1 h
      exact .nil
  | cons a slots ih =>
      obtain ⟨e, entries, rfl, he, hrest⟩ := List.map_eq_cons_iff.1 h
      obtain ⟨ha, hslots⟩ := List.pairwise_cons.1 hapart
      have hown : e.1 ∈ a.names := he ▸ List.mem_cons_self
      have hothers : entries.filter (fun e' => e'.1 ∈ a.names) = [] := by
        refine List.filter_eq_nil_iff.2 fun e' he' hkey => ?_
        have hname : e'.1 ∈ slots.map (·.name) := hrest ▸ List.mem_map_of_mem he'
        obtain ⟨b, hb, hname⟩ := List.mem_map.1 hname
        exact (ha b hb).names _ (of_decide_eq_true hkey) (hname ▸ List.mem_cons_self)
      refine .cons ?_ ?_
      · rw [List.filter_cons_of_pos (by simpa using hown), hothers]
      · refine ((List.forall₂_and_left _ _).2 ⟨ha, ih hslots hrest⟩).imp fun b e' hb => ?_
        rw [List.filter_cons_of_neg (by simpa using hb.1.names _ hown)]
        exact hb.2

/-- The **fields of a record as they are written**: each under its name, by a value that is read
as what the record has in it. -/
def WritesFields (slots : List (Slot σ)) (fields : List (String × Value)) (d : σ) : Prop :=
  List.Forall₂ (fun a f => f.1 = a.name ∧ ∀ t, Denotes t f.2 → a.Reading t (a.get d)) slots fields

/-- Members that denote the written fields of a record have entries that are read as them. -/
theorem exists_entries {slots : List (Slot σ)} {fields : List (String × Value)} {d : σ}
    (hfields : WritesFields slots fields d) {ms : List (List Piece × Tree)}
    (hms : List.Forall₂ (fun m f => Means m.1 f.1 ∧ Denotes m.2 f.2) ms fields) :
    ∃ entries, Keyed ms entries ∧ entries.map (·.1) = slots.map (·.name) ∧
      List.Forall₂ (fun a e => a.Reading e.2 (a.get d)) slots entries := by
  induction hfields generalizing ms with
  | nil =>
      cases hms
      exact ⟨[], .nil, rfl, .nil⟩
  | @cons a f slots fields hf _ ih =>
      obtain ⟨hname, hread⟩ := hf
      rcases hms with _ | @⟨m, _, ms, _, ⟨hmeans, hdenotes⟩, hms⟩
      obtain ⟨entries, hkeyed, hnames, hreads⟩ := ih hms
      refine ⟨(f.1, m.2) :: entries, .cons ⟨hmeans, rfl⟩ hkeyed, ?_,
        .cons (hread _ hdenotes) hreads⟩
      rw [List.map_cons, List.map_cons, hnames, hname]

/-- **A record that is written with all its fields**, each under its name, is read as itself. -/
theorem isRecord_of_denotes {slots : List (Slot σ)} (h : Lawful slots)
    {fields : List (String × Value)} {d : σ} (hfields : WritesFields slots fields d) {t : Tree}
    (ht : Denotes t (.object fields)) : IsRecord slots t d := by
  obtain ⟨ms, rfl, hms⟩ := denotes_object_iff.1 ht
  obtain ⟨entries, hkeyed, hnames, hreads⟩ := exists_entries hfields hms
  refine ⟨entries.map fun e => some e.2, .inl ⟨ms, entries, rfl, hkeyed, ?_⟩, ?_⟩
  · rw [List.forall₂_map_left_iff, List.forall₂_map_right_iff]
    refine (filter_entries_eq h.apart hnames).imp fun a e hown => ?_
    rw [hown]
    rfl
  · rw [List.forall₂_map_right_iff]
    exact hreads

end Scaffold.Json
