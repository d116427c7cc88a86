import Scaffold.Text.Utf8

/-!
# Layout

Text that is broken into lines where it does not fit. A document is made of pieces of text,
gaps at which a line may end, and boxes around documents. A box that fits on the rest of its
line, together with what follows it up to the next gap outside, stays on one line. Any other
box is broken: in a *consistent* box every gap ends the line, in a *filled* one only the gaps
behind which the text up to the next gap does not fit.

Widths are counted in bytes of UTF-8. A line has a fixed width, but however far it is indented,
a least width is left.

## Main definitions

* `Doc` - documents.
* `render` - the text of a document.
-/

namespace Scaffold.Layout

/-- A place at which a line may end. -/
structure Gap where
  /-- How many blanks stand here if the line goes on. -/
  blank : Nat := 0
  /-- How much further than its box the next line is indented. -/
  offset : Int := 0
  /-- Whether a comma is put before the line ends. -/
  comma : Bool := false
  /-- Whether the gap vanishes, unless the limit of its box makes it end the line. -/
  vanishing : Bool := false
  deriving Repr, DecidableEq

/-- How a box is broken. -/
structure Style where
  /-- Whether only those gaps end the line that have to. -/
  filled : Bool := false
  /-- How much further than the surroundings the lines of a broken box are indented. -/
  indent : Int := 0
  /-- The most bytes that the box may have on one line. -/
  limit : Option Nat := none
  deriving Repr, DecidableEq

/-- A document. -/
inductive Doc where
  | text (cs : List Char)
  | gap (g : Gap)
  /-- Nothing; what stands before it need not fit together with what follows. -/
  | edge
  | box (style : Style) (docs : List Doc)

/-- How many bytes a line has. -/
def lineWidth : Int := 89

/-- How many bytes are left on a line at least, however far it is indented. -/
def leastWidth : Int := 60

/-- More bytes than any line has. -/
def endless : Nat := 65535

namespace Doc

/-- Text. -/
def ofString (s : String) : Doc :=
  .text s.toList

/-- A gap that is a blank if the line goes on. -/
def space : Doc :=
  .gap { blank := 1 }

/-- A gap that is nothing if the line goes on. -/
def softEnd : Doc :=
  .gap {}

/-- A gap behind which nothing fits. -/
def lineEnd : Doc :=
  .gap { blank := endless }

end Doc

/-- Documents whose last gap indents by less than its box. -/
def outdented (step : Int) (docs : List Doc) : List Doc :=
  match docs with
  | [] => []
  | [.gap g] => [.gap { g with offset := g.offset - step }]
  | d :: rest => d :: outdented step rest

/-! ### Widths -/

/-- The blanks of a gap that vanishes at the end of a box. -/
def vanishingWidth (docs : List Doc) : Nat :=
  match docs with
  | [] => 0
  | [.gap g] => if g.vanishing then g.blank else 0
  | _ :: rest => vanishingWidth rest

/-- Whether documents of a given width exceed the limit of their box. -/
def Style.isExceeded (s : Style) (width : Nat) : Bool :=
  s.limit.any (· < width)

mutual

/-- The width of a document on one line. -/
def Doc.width (d : Doc) : Nat :=
  match d with
  | .text cs => Text.Utf8.size cs
  | .gap g => g.blank
  | .edge => 0
  | .box s docs =>
    let w := widthAll docs
    if s.isExceeded w then w + endless else w - vanishingWidth docs

/-- The width of documents on one line. -/
def widthAll (docs : List Doc) : Nat :=
  match docs with
  | [] => 0
  | d :: rest => d.width + widthAll rest

end

/-- The width of documents up to the first gap outside a box, where `after` is the width of what
follows them. -/
def reach (docs : List Doc) (after : Nat) : Nat :=
  match docs with
  | [] => after
  | .gap _ :: _ => 0
  | .edge :: _ => 0
  | d :: rest => d.width + reach rest after

/-! ### Writing -/

/-- Where the pen stands on a line. -/
structure Pen where
  /-- Blanks that are owed before the next text. -/
  owed : Nat
  /-- How many bytes are left on the line; negative if it is too long. -/
  space : Int
  deriving Repr, DecidableEq

/-- The pen at the start of a line. -/
def Pen.ofIndent (indent : Int) : Pen :=
  ⟨indent.toNat, max (lineWidth - indent) leastWidth⟩

/-- The blanks that are owed. -/
def Pen.blanks (p : Pen) : List Char :=
  List.replicate p.owed ' '

/-- Which gaps end the line. -/
inductive Frame where
  /-- None. -/
  | flat
  /-- All; those that may vanish only if the box was broken by its limit. -/
  | consistent (byLimit : Bool)
  /-- Those behind which the text does not fit. -/
  | filled
  deriving Repr, DecidableEq

/-- Whether a gap is left out. -/
def Frame.drops (f : Frame) (g : Gap) : Bool :=
  g.vanishing && f != .consistent true

/-- Whether a gap ends the line, where `after` is the width of what follows up to the next. -/
def Frame.breaks (f : Frame) (g : Gap) (after : Nat) (p : Pen) : Bool :=
  match f with
  | .flat => false
  | .consistent _ => true
  | .filled => p.space < g.blank + after

/-- The frame for the documents of a box, where `after` is the width of what follows the box. A
limit breaks a box only if its text would fit. -/
def Style.frame (s : Style) (docs : List Doc) (after : Nat) (p : Pen) : Frame :=
  if (Doc.box s docs).width + after ≤ p.space then .flat
  else if s.filled then .filled
  else .consistent (s.isExceeded (widthAll docs) && widthAll docs - vanishingWidth docs ≤ p.space)

/-- How far the lines of a box are indented. -/
def Style.indentFrom (s : Style) (f : Frame) (indent : Int) : Int :=
  if f = .flat then indent else indent + s.indent

/-- The text of a gap. -/
def Gap.write (g : Gap) (f : Frame) (indent : Int) (after : Nat) (p : Pen) : List Char × Pen :=
  if f.drops g then
    ([], p)
  else if f.breaks g after p then
    ((if g.comma then p.blanks ++ [','] else []) ++ ['\n'], .ofIndent (indent + g.offset))
  else
    ([], ⟨p.owed + g.blank, p.space - g.blank⟩)

mutual

/-- The text of a document, and where it leaves the pen. -/
def Doc.write (d : Doc) (f : Frame) (indent : Int) (after : Nat) (p : Pen) :
    List Char × Pen :=
  match d with
  | .text cs => (p.blanks ++ cs, ⟨0, p.space - Text.Utf8.size cs⟩)
  | .gap g => g.write f indent after p
  | .edge => ([], p)
  | .box s docs =>
    let inner := s.frame docs after p
    writeAll docs inner (s.indentFrom inner indent) after p

/-- The text of documents, and where they leave the pen. -/
def writeAll (docs : List Doc) (f : Frame) (indent : Int) (after : Nat) (p : Pen) :
    List Char × Pen :=
  match docs with
  | [] => ([], p)
  | d :: rest =>
    let (text, p) := d.write f indent (reach rest after) p
    let (more, p) := writeAll rest f indent after p
    (text ++ more, p)

end

/-- The **text of a document**. -/
def render (d : Doc) : List Char :=
  (d.write .filled 0 0 ⟨0, lineWidth⟩).1

end Scaffold.Layout
