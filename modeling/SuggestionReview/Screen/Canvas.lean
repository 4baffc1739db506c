import SuggestionReview.Screen.Line
import SuggestionReview.Text.Width

namespace SuggestionReview

structure Area where
  x : Nat
  y : Nat
  width : Nat
  height : Nat
deriving DecidableEq

namespace Area

def right (a : Area) : Nat := a.x + a.width

def bottom (a : Area) : Nat := a.y + a.height

def isEmpty (a : Area) : Bool := a.width = 0 || a.height = 0

def splitTop (a : Area) (rows : Nat) : Area × Area :=
  let n := min rows a.height
  (⟨a.x, a.y, a.width, n⟩, ⟨a.x, a.y + n, a.width, a.height - n⟩)

def splitBottom (a : Area) (rows : Nat) : Area × Area :=
  a.splitTop (a.height - min rows a.height)

def splitRight (a : Area) (columns : Nat) : Area × Area :=
  let n := min columns a.width
  (⟨a.x, a.y, a.width - n, a.height⟩, ⟨a.x + (a.width - n), a.y, n, a.height⟩)

end Area

structure Cell where
  symbol : String
  foreground : Color
  background : Color
  emphasis : Emphasis
deriving DecidableEq

namespace Cell

def blank : Cell := ⟨" ", .reset, .reset, .none⟩

def restyle (c : Cell) (s : Style) : Cell where
  symbol := c.symbol
  foreground := s.foreground.getD c.foreground
  background := s.background.getD c.background
  emphasis := c.emphasis.union s.emphasis

def put (c : Cell) (symbol : String) (s : Style) : Cell :=
  { c.restyle s with symbol }

def append (c : Cell) (more : String) (s : Style) : Cell :=
  { c.restyle s with symbol := c.symbol ++ more }

end Cell

structure Canvas where
  width : Nat
  height : Nat
  cells : Array Cell
  size_cells : cells.size = width * height

namespace Canvas

def blank (width height : Nat) : Canvas where
  width
  height
  cells := Array.replicate (width * height) .blank
  size_cells := Array.size_replicate

def area (c : Canvas) : Area := ⟨0, 0, c.width, c.height⟩

/-- Changes the cell in a column and a row. Nothing is outside of the canvas. -/
def modify (c : Canvas) (x y : Nat) (f : Cell → Cell) : Canvas :=
  if x < c.width then
    { c with
      cells := c.cells.modify (y * c.width + x) f
      size_cells := by rw [Array.size_modify, c.size_cells] }
  else c

def modifyRow (c : Canvas) (x y : Nat) (f : Cell → Cell) : Nat → Canvas
  | 0 => c
  | n + 1 => (c.modify x y f).modifyRow (x + 1) y f n

def modifyColumn (c : Canvas) (x y : Nat) (f : Cell → Cell) : Nat → Canvas
  | 0 => c
  | n + 1 => (c.modify x y f).modifyColumn x (y + 1) f n

def restyle (c : Canvas) (a : Area) (s : Style) : Canvas :=
  (List.range a.height).foldl (fun c j ↦ c.modifyRow a.x (a.y + j) (·.restyle s) a.width) c

def rowsOf (width : Nat) : Nat → List Cell → List (List Cell)
  | 0, _ => []
  | n + 1, cells => cells.take width :: rowsOf width n (cells.drop width)

/-- The cells row by row. A symbol of two columns leaves the cell after it as it was. -/
def shown (c : Canvas) : List (List Cell) :=
  rowsOf c.width c.height c.cells.toList

end Canvas

def rowText (row : List Cell) : String :=
  let s := (row.map (·.symbol.toList)).flatten
  String.ofList (s.reverse.dropWhile (· = ' ')).reverse

def Cell.looksLike (a b : Cell) : Bool :=
  a.foreground == b.foreground && a.background == b.background && a.emphasis == b.emphasis

def styleRuns : List Cell → List (Nat × Cell)
  | [] => []
  | c :: rest =>
    match styleRuns rest with
    | (n, d) :: more => if c.looksLike d then (n + 1, d) :: more else (1, c) :: (n, d) :: more
    | [] => [(1, c)]

namespace Color

def index? : Color → Option Nat
  | black => some 0
  | red => some 1
  | green => some 2
  | yellow => some 3
  | blue => some 4
  | cyan => some 6
  | gray => some 7
  | darkGray => some 8
  | lightGreen => some 10
  | lightBlue => some 12
  | white => some 15
  | reset | rgb .. => none

def parameter (base : Nat) (c : Color) : String :=
  match c, c.index? with
  | _, some i => toString (if i < 8 then base + i else base + 52 + i)
  | rgb r g b, none =>
    ";".intercalate ([base + 8, 2, r.toNat, g.toNat, b.toNat].map toString)
  | _, none => toString (base + 9)

end Color

def Emphasis.parameters (e : Emphasis) : List String :=
  (if e.bold then ["1"] else []) ++ (if e.underlined then ["4"] else []) ++
    (if e.reversed then ["7"] else [])

def Cell.selection (c : Cell) : String :=
  "\x1b[" ++ ";".intercalate
    ("0" :: c.foreground.parameter 30 :: c.background.parameter 40 :: c.emphasis.parameters) ++ "m"

def terminalRow : List (Nat × Cell) → List Cell → String
  | [], _ => "\x1b[0m"
  | (n, look) :: runs, row =>
    look.selection ++ String.join ((row.take n).map (·.symbol)) ++ terminalRow runs (row.drop n)

/-- Clears the screen and writes every row. A symbol of two columns stands for both its cells. -/
def Canvas.terminalText (c : Canvas) : String :=
  let rows := c.shown.map (narrowed 0)
  "\x1b[2J\x1b[H" ++ "\r\n".intercalate (rows.map fun row ↦ terminalRow (styleRuns row) row)
where
  narrowed (covered : Nat) : List Cell → List Cell
    | [] => []
    | c :: rest =>
      let rest := narrowed (Text.width c.symbol - 1) rest
      if covered = 0 then c :: rest else rest

end SuggestionReview
