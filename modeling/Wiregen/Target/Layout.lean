/-!
# Fitting text into lines

A document is text with places where a line may break, in nested groups. A group that fits what is
left of the line, together with the text up to the next break after it, stays on the line. In a
group that does not fit, a consistent one breaks everywhere and an inconsistent one only where the
text up to the next break would not fit.
-/

namespace Wiregen.Target

/-- A place where a line may break. -/
structure Break where
  /-- Blanks in place of the break where the line goes on. -/
  blank : Nat := 0
  /-- Indentation of the new line beyond that of the group. -/
  offset : Int := 0
  /-- Text that ends the old line. -/
  before : String := ""
  /-- Text that starts the new line. -/
  after : String := ""
  /-- Text where the line goes on. -/
  unbroken : String := ""
  /-- Whether the line always goes on. -/
  never : Bool := false

/-- Text that is to be laid out. -/
inductive Doc where
  | text (s : String)
  | linebreak (b : Break)
  /-- Documents that break together, or one by one, at an indentation of their own. -/
  | group (offset : Int) (consistent : Bool) (content : List Doc)

namespace Doc

/-- The width of a break that no line has room for. -/
def unfitting : Nat := 0xffff

/-- A break that vanishes where the line goes on. -/
abbrev zero : Doc := .linebreak {}

/-- A break that is a blank where the line goes on. -/
abbrev space : Doc := .linebreak { blank := 1 }

/-- A break that every group with it breaks for. -/
abbrev hard : Doc := .linebreak { blank := unfitting }

/-- No break, but the text before it is measured only up to here. -/
abbrev never : Doc := .linebreak { never := true }

/-- A group that breaks everywhere or nowhere. -/
abbrev consistent (offset : Int) (content : List Doc) : Doc := .group offset true content

/-- A group that breaks where it must. -/
abbrev inconsistent (offset : Int) (content : List Doc) : Doc := .group offset false content

/-! ## Widths -/

mutual

/-- The width of a document on one line, in bytes. -/
def width : Doc → Nat
  | .text s => s.utf8ByteSize
  | .linebreak b => b.blank
  | .group _ _ content => widthOf content

/-- The width of documents in a row on one line. -/
def widthOf : List Doc → Nat
  | [] => 0
  | d :: ds => d.width + widthOf ds

end

/-- The width up to the next break among the documents; `follow`, the width after them, counts where
they have none. -/
def reach (follow : Nat) : List Doc → Nat
  | [] => follow
  | .linebreak _ :: _ => 0
  | d :: ds => d.width + reach follow ds

/-! ## Printing -/

/-- How far the text stays from the margin on a line without indentation. -/
def lineWidth : Int := 89

/-- The room a line has however deep it is indented. -/
def leastRoom : Int := 60

/-- What a group was found to need. -/
inductive Fit where
  | flat
  | broken (consistent : Bool)

/-- Printed text and the state of its last line. -/
structure Page where
  printed : String := ""
  /-- What is left of the line. -/
  room : Int := lineWidth
  /-- The indentation of the group. -/
  indent : Int := 0
  /-- Blanks that are written before the next text, and not at the end of a line. -/
  pending : Int := 0

namespace Page

/-- Text after the pending blanks. -/
def flushed (page : Page) (s : String) : Page :=
  { page with
    printed := page.printed ++ String.ofList (List.replicate page.pending.toNat ' ') ++ s
    pending := 0 }

/-- Text on the line. -/
def write (page : Page) (s : String) : Page :=
  let page := page.flushed s
  { page with room := page.room - s.utf8ByteSize }

/-- The line goes on at a break. -/
def goOn (page : Page) (b : Break) : Page :=
  { page with
    printed := page.printed ++ b.unbroken
    room := page.room - b.blank - b.unbroken.utf8ByteSize
    pending := page.pending + b.blank }

/-- A new line at a break. -/
def newLine (page : Page) (b : Break) : Page :=
  let page := if b.before = "" then page else page.flushed b.before
  let margin := page.indent + b.offset
  let page :=
    { page with
      printed := page.printed ++ "\n"
      room := max (lineWidth - margin) leastRoom
      pending := margin }
  if b.after = "" then page else page.write b.after

/-- A break in a group, where `size` is the width up to the next one. -/
def breakAt (page : Page) (fit : Fit) (b : Break) (size : Nat) : Page :=
  match fit with
  | .flat => page.goOn b
  | .broken consistent =>
    if b.never || (!consistent && (size : Int) ≤ page.room) then page.goOn b else page.newLine b

end Page

mutual

/-- Prints a document in a group; `follow` is the width after it up to the next break. -/
def print (fit : Fit) (follow : Nat) : Doc → Page → Page
  | .text s, page => page.write s
  | .linebreak b, page => page.breakAt fit b (b.blank + follow)
  | .group offset consistent content, page =>
    if ((widthOf content + follow : Nat) : Int) ≤ page.room then
      printAll .flat follow content page
    else
      let shifted := { page with indent := page.indent + offset }
      { printAll (.broken consistent) follow content shifted with indent := page.indent }

/-- Prints documents in a row. -/
def printAll (fit : Fit) (follow : Nat) : List Doc → Page → Page
  | [], page => page
  | d :: ds, page => printAll fit follow ds (d.print fit (reach follow ds) page)

end

/-- The text of a document on a page of its own. -/
def layout (d : Doc) : String := (d.print (.broken false) 0 {}).printed

mutual

/-- The text of a document on one line. -/
def flat : Doc → String
  | .text s => s
  | .linebreak b => String.ofList (List.replicate b.blank ' ') ++ b.unbroken
  | .group _ _ content => flatAll content

/-- The text of documents in a row on one line. -/
def flatAll : List Doc → String
  | [] => ""
  | d :: ds => d.flat ++ flatAll ds

end

end Doc

end Wiregen.Target
