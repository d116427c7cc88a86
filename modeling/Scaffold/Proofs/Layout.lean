import Scaffold.Layout

/-!
# What a layout leaves alone

Wherever the lines of a document end, its text is all there and in order. What the widths decide
is only what stands in the gaps: blanks, the end of a line, or a comma and the end of a line.

## Main definitions

* `Atom` - the texts and gaps of a document, without its boxes.
* `Prints` - a text that atoms may have, whatever the widths.

## Main results

* `Doc.write_prints` - a document is written as its atoms may be.
* `render_prints` - so is a whole document.
-/

namespace Scaffold.Layout

/-- A **text or gap** of a document. Of a gap it is kept whether it may put a comma. -/
inductive Atom where
  | text (cs : List Char)
  | gap (comma : Bool)
  deriving Repr, DecidableEq

mutual

/-- The texts and gaps of a document. -/
def Doc.atoms (d : Doc) : List Atom :=
  match d with
  | .text cs => [.text cs]
  | .gap g => [.gap g.comma]
  | .edge => []
  | .box _ docs => atomsAll docs

/-- The texts and gaps of documents. -/
def atomsAll (docs : List Doc) : List Atom :=
  match docs with
  | [] => []
  | d :: rest => d.atoms ++ atomsAll rest

end

@[simp]
theorem atomsAll_nil : atomsAll [] = [] :=
  rfl

@[simp]
theorem atomsAll_cons (d : Doc) (docs : List Doc) :
    atomsAll (d :: docs) = d.atoms ++ atomsAll docs :=
  rfl

/-- The texts and gaps of one list of documents after another. -/
@[simp]
theorem atomsAll_append (docs more : List Doc) :
    atomsAll (docs ++ more) = atomsAll docs ++ atomsAll more := by
  induction docs with
  | nil => rfl
  | cons d docs ih => rw [List.cons_append, atomsAll_cons, atomsAll_cons, ih, List.append_assoc]

/-- A **text that atoms may have**, with the blanks that are owed in front of it and those that
are owed behind it. A gap adds to the blanks that are owed, or ends the line; blanks in front of
the end of a line are owed no more, unless a comma stands between. -/
inductive Prints : List Atom → Nat → List Char → Nat → Prop where
  | nil {n : Nat} : Prints [] n [] n
  | text {t cs : List Char} {as : List Atom} {n k : Nat} :
      Prints as 0 cs k → Prints (.text t :: as) n (List.replicate n ' ' ++ t ++ cs) k
  | stay {comma : Bool} {cs : List Char} {as : List Atom} {n m k : Nat} :
      n ≤ m → Prints as m cs k → Prints (.gap comma :: as) n cs k
  | lineEnd {comma : Bool} {cs : List Char} {as : List Atom} {n m k : Nat} :
      Prints as m cs k → Prints (.gap comma :: as) n ('\n' :: cs) k
  | comma {cs : List Char} {as : List Atom} {n m k : Nat} :
      Prints as m cs k →
      Prints (.gap true :: as) n (List.replicate n ' ' ++ ',' :: '\n' :: cs) k

/-- Texts of atoms after each other. -/
theorem Prints.append {as bs : List Atom} {n m k : Nat} {cs ds : List Char}
    (h : Prints as n cs m) (hbs : Prints bs m ds k) : Prints (as ++ bs) n (cs ++ ds) k := by
  induction h with
  | nil =>
      exact hbs
  | text _ ih =>
      rw [List.append_assoc]
      exact .text (ih hbs)
  | stay hle _ ih =>
      exact .stay hle (ih hbs)
  | lineEnd _ ih =>
      exact .lineEnd (ih hbs)
  | comma _ ih =>
      rw [List.append_assoc]
      exact .comma (ih hbs)

/-- A gap is written as it may be. -/
theorem Gap.write_prints (g : Gap) (f : Frame) (indent : Int) (after : Nat) (p : Pen) :
    Prints [.gap g.comma] p.owed (g.write f indent after p).1 (g.write f indent after p).2.owed := by
  unfold Gap.write
  split
  · exact .stay Nat.le.refl .nil
  · split
    · split
      · next hcomma =>
          rw [hcomma, Pen.blanks, List.append_assoc]
          exact .comma .nil
      · exact .lineEnd .nil
    · exact .stay (Nat.le_add_right _ _) .nil

mutual

/-- A document is **written as its atoms may be**, whatever the widths. -/
theorem Doc.write_prints (d : Doc) (f : Frame) (indent : Int) (after : Nat) (p : Pen) :
    Prints d.atoms p.owed (d.write f indent after p).1 (d.write f indent after p).2.owed := by
  cases d with
  | text cs =>
      have h : Prints [.text cs] p.owed (List.replicate p.owed ' ' ++ cs ++ []) 0 := .text .nil
      rw [List.append_nil] at h
      exact h
  | gap g =>
      exact g.write_prints f indent after p
  | edge =>
      exact .nil
  | box s docs =>
      exact writeAll_prints docs _ _ after p

/-- So are documents after each other. -/
theorem writeAll_prints (docs : List Doc) (f : Frame) (indent : Int) (after : Nat) (p : Pen) :
    Prints (atomsAll docs) p.owed (writeAll docs f indent after p).1
      (writeAll docs f indent after p).2.owed := by
  cases docs with
  | nil =>
      exact .nil
  | cons d rest =>
      have hfirst := d.write_prints f indent (reach rest after) p
      exact hfirst.append (writeAll_prints rest f indent after _)

end

/-- A **document is rendered as its atoms may be**. -/
theorem render_prints (d : Doc) : ∃ k, Prints d.atoms 0 (render d) k :=
  ⟨_, d.write_prints .filled 0 0 ⟨0, lineWidth⟩⟩

end Scaffold.Layout
