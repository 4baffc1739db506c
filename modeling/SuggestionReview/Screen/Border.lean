import SuggestionReview.Screen.Canvas
import SuggestionReview.Screen.Line

namespace SuggestionReview

structure Sides where
  left : Bool
  top : Bool
  right : Bool
  bottom : Bool
deriving DecidableEq

namespace Sides

def none : Sides := ⟨false, false, false, false⟩

def all : Sides := ⟨true, true, true, true⟩

end Sides

structure Border where
  sides : Sides
  style : Style
  title : StyledLine

namespace Border

/-- The area inside the lines. A title takes a row of its own. -/
def inner (b : Border) (a : Area) : Area :=
  let left := if b.sides.left then 1 else 0
  let top := if b.sides.top || !b.title.isEmpty then 1 else 0
  { x := a.x + min left a.width
    y := a.y + min top a.height
    width := a.width - left - (if b.sides.right then 1 else 0)
    height := a.height - top - (if b.sides.bottom then 1 else 0) }

def titleArea (b : Border) (a : Area) : Area :=
  let left := if b.sides.left then 1 else 0
  { x := a.x + left
    y := a.y
    width := a.width - left - (if b.sides.right then 1 else 0)
    height := 1 }

end Border

namespace Canvas

def drawSide (c : Canvas) (present : Bool) (draw : Canvas → Canvas) : Canvas :=
  if present then draw c else c

/-- Draws what is left of a title span: the start column of the span, the column to draw at, and
whether anything was drawn. What has no width joins the cell before it. -/
def drawTitleGlyphs (c : Canvas) (start x y right : Nat) (first : Bool) : List Glyph → Canvas × Nat
  | [] => (c, x)
  | g :: rest =>
    if right < x + g.width then (c, x)
    else
      let c :=
        if first then c.modify x y (·.put g.symbol g.style)
        else if x = start then c.modify x y (·.append g.symbol g.style)
        else if g.width = 0 then c.modify (x - 1) y (·.append g.symbol g.style)
        else c.modify x y (·.put g.symbol g.style)
      let c := c.modifyRow (x + 1) y (fun _ ↦ .blank) (g.width - 1)
      c.drawTitleGlyphs start (x + g.width) y right false rest

def drawTitle (c : Canvas) (x y right : Nat) : StyledLine → Canvas
  | [] => c
  | span :: rest =>
    if span.width = 0 then c.drawTitle x y right rest
    else if right ≤ x then c
    else ((c.drawTitleGlyphs x x y right true span.glyphs).1).drawTitle (x + span.width) y right rest

def drawBorder (c : Canvas) (a : Area) (b : Border) : Canvas :=
  if a.isEmpty then c
  else
    let s := b.sides
    let put (symbol : String) (cell : Cell) : Cell := cell.put symbol b.style
    let east := a.right - 1
    let south := a.bottom - 1
    let title := b.titleArea a
    c
      |>.drawSide s.left (·.modifyColumn a.x a.y (put "│") a.height)
      |>.drawSide s.top (·.modifyRow a.x a.y (put "─") a.width)
      |>.drawSide s.right (·.modifyColumn east a.y (put "│") a.height)
      |>.drawSide s.bottom (·.modifyRow a.x south (put "─") a.width)
      |>.drawSide (s.right && s.bottom) (·.modify east south (put "┘"))
      |>.drawSide (s.right && s.top) (·.modify east a.y (put "┐"))
      |>.drawSide (s.left && s.bottom) (·.modify a.x south (put "└"))
      |>.drawSide (s.left && s.top) (·.modify a.x a.y (put "┌"))
      |>.drawTitle title.x title.y title.right b.title

end Canvas

end SuggestionReview
