import SuggestionReview.Screen.Border
import SuggestionReview.Screen.Paragraph
import SuggestionReview.TextArea.Basic

namespace SuggestionReview

structure TextAreaStyle where
  lineNumber : Style
  cursorLine : Style
  cursor : Style
  selection : Style
deriving DecidableEq

namespace TextAreaStyle

def standard (lineNumber : Style) : TextAreaStyle where
  lineNumber
  cursorLine := Style.plain.underlined
  cursor := Style.plain.reversed
  selection := .bg .lightBlue

end TextAreaStyle

namespace TextArea

def digits (n : Nat) : Nat := (toString n).length

def selectedColumns (t : TextArea) (row : Nat) : Nat × Nat × Bool :=
  match t.selected? with
  | none => (0, 0, false)
  | some (start, stop) =>
    if row < start.row || stop.row < row then (0, 0, false)
    else
      (if row = start.row then start.column else 0,
        if row = stop.row then stop.column else (t.lines.line row).length,
        row < stop.row)

def styleAt (t : TextArea) (s : TextAreaStyle) (row column : Nat) : Style :=
  let (start, stop, _) := t.selectedColumns row
  if t.cursor = ⟨row, column⟩ then s.cursor
  else if start ≤ column && column < stop then s.selection
  else if t.cursor.row = row then s.cursorLine
  else .plain

/-- The characters of a line with tabs as blanks, each with its style, given the columns used. -/
def styledChars (style : Nat → Style) (column used : Nat) : List Char → List (List Char × Style)
  | [] => []
  | c :: rest =>
    if c = '\t' then
      let blanks := tabBlanks used
      (blanks, style column) :: styledChars style (column + 1) (used + blanks.length) rest
    else ([c], style column) :: styledChars style (column + 1) (used + Text.loneWidth c) rest

def runs : List (List Char × Style) → List (List Char × Style)
  | [] => []
  | (cs, s) :: rest =>
    match runs rest with
    | (ds, s') :: more => if s = s' then (cs ++ ds, s) :: more else (cs, s) :: (ds, s') :: more
    | [] => [(cs, s)]

def endSpan (t : TextArea) (s : TextAreaStyle) (row : Nat) : StyledLine :=
  if t.cursor.row = row && (t.lines.line row).length ≤ t.cursor.column then [⟨" ", s.cursor⟩]
  else if (t.selectedColumns row).2.2 then [⟨" ", s.selection⟩]
  else []

def numberSpan (t : TextArea) (s : TextAreaStyle) (row : Nat) : Span :=
  let blanks := digits t.lines.length - digits (row + 1) + 1
  ⟨String.ofList (List.replicate blanks ' ') ++ toString (row + 1) ++ " ", s.lineNumber⟩

def rowSpans (t : TextArea) (s : TextAreaStyle) (row : Nat) : StyledLine :=
  let chars := styledChars (t.styleAt s row) 0 0 (t.lines.line row)
  t.numberSpan s row :: (runs chars).map (fun (cs, style) ↦ ⟨String.ofList cs, style⟩) ++
    t.endSpan s row

/-- The first row or column to show: as before, unless the cursor would be outside. -/
def scrolled (before cursor size : Nat) : Nat :=
  if cursor < before then cursor
  else if before + size ≤ cursor then cursor + 1 - size
  else before

/-- The column of the cursor among the columns of its row and the line numbers. The numbers slide
into view as the cursor comes near them. -/
def shownColumn (t : TextArea) : Nat :=
  let numbers := digits t.lines.length + 2
  if t.cursor.column ≤ numbers then 2 * t.cursor.column else t.cursor.column + numbers

def viewIn (t : TextArea) (a : Area) : Viewport where
  row := scrolled t.view.row t.cursor.row a.height
  column := scrolled t.view.column t.shownColumn a.width
  width := a.width
  height := a.height

def draw (t : TextArea) (s : TextAreaStyle) (b : Border) (a : Area) (c : Canvas) :
    TextArea × Canvas :=
  let inner := b.inner a
  let view := t.viewIn inner
  let rows := (List.range t.lines.length).drop view.row |>.take view.height
  ({ t with view },
    (c.drawBorder a b).drawText inner .plain (.clip view.column) (rows.map (t.rowSpans s)))

end TextArea

end SuggestionReview
