/-!
# Breaking text into lines

A document is text with places where a line may break, grouped in nested boxes.  A box whose
contents fit into the rest of the line has no breaks.  One that does not fit breaks everywhere
when it is consistent, and otherwise only where the text up to the next break would not fit.

## Main definitions

* `Layout`: a sequence of documents, built with the functions of this module.
* `Layout.text`: the lines of a document.
-/

namespace SchemaTypes

/-- A place where a line may break. -/
structure LineBreak where
  /-- Number of blanks when the line does not break. -/
  blanks : Nat := 0
  /-- Added to the indentation of the next line when it breaks. -/
  offset : Int := 0
  /-- Written at the end of the line when it breaks. -/
  before : Option Char := none
  /-- Written at the start of the next line when it breaks. -/
  after : String := ""
  /-- Written when the line does not break. -/
  unbroken : Option Char := none
  /-- Left out at the end of a box. -/
  ifNonempty : Bool := false
  /-- The line never breaks here. -/
  never : Bool := false
deriving DecidableEq, Repr, Inhabited

/-- A piece of a layout: a text, a place where a line may break, or a box whose breaks go together.
-/
inductive Document
  | text (text : String)
  /-- Writes nothing and fits on no line. -/
  | overflow
  | lineBreak (place : LineBreak)
  | box (consistent : Bool) (indent : Int) (body : List Document)
deriving Repr, Inhabited

/-- Documents one after the other. -/
abbrev Layout := List Document

namespace Layout

/-- Width of what fits on no line. -/
def unboundedWidth : Nat := 0xffff

/-- Number of columns of a line. -/
def lineWidth : Int := 89

/-- Every line has at least this many columns, however far it is indented. -/
def leastWidth : Int := 60

/-- Columns of one level of indentation. -/
def indentStep : Int := 4

/-! ## Building documents -/

/-- A text that is written as it is. -/
def word (text : String) : Layout := [.text text]

/-- A blank at which no line breaks. -/
def blank : Layout := word " "

/-- Breaks the line, or writes nothing. -/
def softBreak : Layout := [.lineBreak {}]

/-- Breaks the line, or writes a blank. -/
def space : Layout := [.lineBreak { blanks := 1 }]

/-- Always breaks the line. -/
def hardBreak : Layout := [.lineBreak { blanks := unboundedWidth }]

/-- A blank or line break, unless the box ends here. -/
def spaceIfNonempty : Layout := [.lineBreak { blanks := 1, ifNonempty := true }]

/-- A line break, unless the box ends here. -/
def hardBreakIfNonempty : Layout := [.lineBreak { blanks := unboundedWidth, ifNonempty := true }]

/-- Ends what has to fit on the line, and writes nothing. -/
def neverBreak : Layout := [.lineBreak { never := true }]

/-- The comma after an element: after the last one only when the line breaks. -/
def trailingComma (isLast : Bool) : Layout :=
  if isLast then [.lineBreak { before := some ',' }] else word "," ++ space

/-- As `trailingComma`, with a blank after the last element when the line does not break. -/
def trailingCommaOrSpace (isLast : Bool) : Layout :=
  if isLast then [.lineBreak { blanks := 1, before := some ',' }] else word "," ++ space

/-- Moves the line that starts at the break at the very end by some columns. -/
def offsetLast (amount : Int) : Layout → Layout
  | [] => []
  | [.lineBreak place] => [.lineBreak { place with offset := place.offset + amount }]
  | document :: rest => document :: offsetLast amount rest

/-- Takes the line that starts at the very end back by one level. -/
def outdentLast (layout : Layout) : Layout := offsetLast (-indentStep) layout

/-- Whether the last thing is a break that is only there for what comes before it. -/
def endsWithOptionalBreak (layout : Layout) : Bool :=
  match layout.getLast? with
  | some (.lineBreak place) => place.ifNonempty
  | _ => false

/-- A box.  A box of a single break vanishes, and so does an optional break at the end. -/
def box (consistent : Bool) (indent : Int) (body : Layout) : Layout :=
  match body with
  | [.lineBreak _] => []
  | body =>
    [.box consistent indent (if endsWithOptionalBreak body then body.dropLast else body)]

/-- A box that breaks everywhere or nowhere. -/
def consistentBox (indent : Int) (body : Layout) : Layout := box true indent body

/-- A box that breaks where a line is full. -/
def fillBox (indent : Int) (body : Layout) : Layout := box false indent body

mutual

/-- Width of a document on one line. -/
def documentWidth : Document → Nat
  | .text text => text.utf8ByteSize
  | .overflow => unboundedWidth
  | .lineBreak place => place.blanks
  | .box _ _ body => width body

/-- Width of documents on one line. -/
def width : List Document → Nat
  | [] => 0
  | document :: rest => documentWidth document + width rest

end

/-- A consistent box that also breaks when it is wider than `most`. -/
def narrowBox (most : Nat) (indent : Int) (body : Layout) : Layout :=
  consistentBox indent <|
    if width body > most then body ++ [.overflow] else body

/-- Elements with something after each, told whether it is the last one. -/
def withEach (after : Bool → Layout) : List Layout → Layout
  | [] => []
  | [element] => element ++ after true
  | element :: rest => element ++ after false ++ withEach after rest

/-- Elements with something between them. -/
def joined (separator : Layout) (elements : List Layout) : Layout :=
  withEach (fun isLast => if isLast then [] else separator) elements

/-! ## Writing lines -/

/-- What is written so far.  Blanks at the start of a line are kept back until text follows. -/
structure Page where
  text : String := ""
  /-- Columns left on the line. -/
  room : Int := lineWidth
  pending : Nat := 0
deriving Repr, Inhabited

namespace Page

/-- Writes the blanks that are still due. -/
def flush (page : Page) : Page :=
  { page with text := page.text.pushn ' ' page.pending, pending := 0 }

/-- Writes a text in the current line. -/
def write (page : Page) (text : String) : Page :=
  let page := page.flush
  { page with text := page.text ++ text, room := page.room - text.utf8ByteSize }

/-- Passes a break without breaking the line. -/
def passBreak (page : Page) (place : LineBreak) : Page :=
  let page :=
    { page with pending := page.pending + place.blanks, room := page.room - place.blanks }
  match place.unbroken with
  | some c => { page with text := page.text.push c, room := page.room - c.utf8Size }
  | none => page

/-- Breaks the line. -/
def breakLine (page : Page) (indent : Int) (place : LineBreak) : Page :=
  let page :=
    match place.before with
    | some c => { page.flush with text := page.flush.text.push c }
    | none => page
  let column := indent + place.offset
  let page : Page :=
    { text := page.text.push '\n', room := max (lineWidth - column) leastWidth,
      pending := column.toNat }
  if place.after.isEmpty then page else page.write place.after

end Page

/-- How the breaks of a box are treated. -/
inductive Frame
  | fits
  | broken (consistent : Bool)
deriving DecidableEq, Repr, Inhabited

/-- Width of what stands before the next break; `after` is what follows the documents. -/
def widthToBreak (after : Nat) : List Document → Nat
  | [] => after
  | .lineBreak _ :: _ => 0
  | document :: rest => documentWidth document + widthToBreak after rest

mutual

/-- Writes a document; `after` is the width of what follows up to the next break. -/
def writeDocument (frame : Frame) (indent : Int) (after : Nat) (document : Document)
    (page : Page) : Page :=
  match document with
  | .text text => page.write text
  | .overflow => page
  | .lineBreak place =>
    let passes :=
      place.never ||
        match frame with
        | .fits => true
        | .broken true => false
        | .broken false => ((place.blanks + after : Nat) : Int) ≤ page.room
    if passes then page.passBreak place else page.breakLine indent place
  | .box consistent step body =>
    if ((width body + after : Nat) : Int) > page.room then
      writeAll (.broken consistent) (indent + step) after body page
    else writeAll .fits indent after body page

/-- Writes documents one after the other.  Each has to leave room for what follows up to the next
break. -/
def writeAll (frame : Frame) (indent : Int) (after : Nat) (documents : List Document)
    (page : Page) : Page :=
  match documents with
  | [] => page
  | document :: rest =>
    writeAll frame indent after rest
      (writeDocument frame indent (widthToBreak after rest) document page)

end

/-- The lines of a document. -/
def text (layout : Layout) : String :=
  (writeAll (.broken false) 0 0 layout {}).text

end Layout

end SchemaTypes
