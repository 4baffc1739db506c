import SuggestionReview.TextArea.Buffer
import SuggestionReview.TextArea.Motion
import SuggestionReview.Text.Width

namespace SuggestionReview

structure TextArea where
  lines : Buffer
  cursor : Position
  /-- Where the selection starts that ends at the cursor. -/
  selection : Option Position
  history : History
  clipboard : Buffer
  view : Viewport
deriving DecidableEq

inductive EditCommand where
  | insert (c : Char)
  | newline
  | tab
  | deleteBack
  | deleteForward
  | deleteToEnd
  | deleteToStart
  | deleteWordBack
  | deleteWordForward
  | undo
  | redo
  | paste
  | cut
  | copy
  /-- Move the cursor, and the end of the selection with it when extending. -/
  | move (motion : Motion) (extend : Bool)
  | pageDown (extend : Bool)
  | pageUp (extend : Bool)
deriving DecidableEq

namespace TextArea

def ofLines (lines : Buffer) : TextArea where
  lines := if lines.isEmpty then [[]] else lines
  cursor := ⟨0, 0⟩
  selection := none
  history := .empty
  clipboard := [[]]
  view := ⟨0, 0, 0, 0⟩

def empty : TextArea := ofLines []

def text (t : TextArea) : String := t.lines.text

def currentLine (t : TextArea) : List Char := t.lines.line t.cursor.row

def edit (t : TextArea) (e : Edit) : TextArea :=
  { t with lines := e.apply t.lines, cursor := e.after, history := t.history.push e }

def put (t : TextArea) (piece : Buffer) : TextArea :=
  t.edit ⟨true, t.cursor, piece, t.cursor, Buffer.behind t.cursor piece⟩

/-- Takes out what stands between two places. The cursor goes to the first one, and when that is
undone to the second one. -/
def take (t : TextArea) (start stop : Position) : TextArea :=
  t.edit ⟨false, start, t.lines.slice start stop, stop, start⟩

def selected? (t : TextArea) : Option (Position × Position) :=
  match t.selection with
  | none => none
  | some s =>
    let c := t.cursor
    if s = c then none
    else if s.row < c.row || s.row = c.row && s.column < c.column then some (s, c)
    else some (c, s)

def deselect (t : TextArea) : TextArea := { t with selection := none }

def deleteSelection (t : TextArea) : TextArea × Bool :=
  match t.selected? with
  | some (start, stop) => (t.deselect.take start stop, true)
  | none => (t.deselect, false)

def orSelection (t : TextArea) (f : TextArea → TextArea × Bool) : TextArea × Bool :=
  match t.deleteSelection with
  | (t, true) => (t, true)
  | (t, false) => f t

def joinAbove (t : TextArea) : TextArea × Bool :=
  if t.cursor.row = 0 then (t, false)
  else (t.take (t.lines.lineEnd (t.cursor.row - 1)) ⟨t.cursor.row, 0⟩, true)

def eraseBack (t : TextArea) : TextArea × Bool :=
  let c := t.cursor
  if c.column = 0 then t.joinAbove else (t.take ⟨c.row, c.column - 1⟩ c, true)

def eraseForward (t : TextArea) : TextArea × Bool :=
  match Motion.forward.target t.lines t.view t.cursor with
  | none => (t, false)
  | some p => { t with cursor := p }.eraseBack

def eraseColumns (t : TextArea) (start stop : Nat) : TextArea × Bool :=
  if (t.currentLine.take stop).length ≤ start then (t, false)
  else
    let row := t.cursor.row
    let stop := min stop t.currentLine.length
    let piece := t.lines.slice ⟨row, start⟩ ⟨row, stop⟩
    ({ t.take ⟨row, start⟩ ⟨row, stop⟩ with clipboard := piece }, true)

def orElse (r : TextArea × Bool) (f : TextArea → TextArea × Bool) : TextArea × Bool :=
  if r.2 then r else f r.1

def eraseWordBack (t : TextArea) : TextArea × Bool :=
  let start := (Text.wordStart t.currentLine t.cursor.column).getD 0
  if t.cursor.column = 0 then t.joinAbove else t.eraseColumns start t.cursor.column

def eraseWordForward (t : TextArea) : TextArea × Bool :=
  let c := t.cursor
  match Text.wordEnd t.currentLine c.column with
  | some stop => t.eraseColumns c.column stop
  | none =>
    if c.column < t.currentLine.length then t.eraseColumns c.column t.currentLine.length
    else if c.row + 1 < t.lines.length then { t with cursor := ⟨c.row + 1, 0⟩ }.joinAbove
    else (t, false)

def tabWidth : Nat := 4

def tabBlanks (column : Nat) : List Char := List.replicate (tabWidth - column % tabWidth) ' '

def moveCursor (t : TextArea) (m : Motion) (extend : Bool) : TextArea :=
  match m.target t.lines t.view t.cursor with
  | none => t
  | some p =>
    { t with
      cursor := p
      selection := if extend then some (t.selection.getD t.cursor) else none }

def scrollTo (t : TextArea) (row : Nat) (extend : Bool) : TextArea :=
  let selection := if extend then some (t.selection.getD t.cursor) else t.selection
  { t with selection, view := { t.view with row } }.moveCursor .intoView extend

def undo (t : TextArea) : TextArea × Bool :=
  match t.history.made with
  | [] => (t, false)
  | e :: rest =>
    ({ t.deselect with
      lines := e.revert t.lines
      cursor := e.before
      history := ⟨rest, e :: t.history.undone⟩ }, true)

def redo (t : TextArea) : TextArea × Bool :=
  match t.history.undone with
  | [] => (t, false)
  | e :: rest =>
    ({ t.deselect with
      lines := e.apply t.lines
      cursor := e.after
      history := ⟨e :: t.history.made, rest⟩ }, true)

def keep (t : TextArea) : TextArea :=
  match t.selected? with
  | some (start, stop) => { t with clipboard := t.lines.slice start stop }
  | none => t

/-- Puts the clipboard in, in place of the selection. Where the clipboard is empty that counts as
no change, even if a selection was deleted. -/
def paste (t : TextArea) : TextArea × Bool :=
  let t := t.deleteSelection.1
  if t.clipboard = [[]] then (t, false) else (t.put t.clipboard, true)

/-- Does what a command says. The second part says whether the text may have changed. -/
def run (t : TextArea) : EditCommand → TextArea × Bool
  | .insert c => (t.deleteSelection.1.put [[c]], true)
  | .newline => (t.deleteSelection.1.put [[], []], true)
  | .tab =>
    let t := t.deleteSelection.1
    let column := total Text.loneWidth (t.currentLine.take t.cursor.column)
    (t.put [tabBlanks column], true)
  | .deleteBack => t.orSelection (·.eraseBack)
  | .deleteForward => t.orSelection (·.eraseForward)
  | .deleteToEnd =>
    t.orSelection fun t ↦
      orElse (t.eraseColumns t.cursor.column t.currentLine.length) (·.eraseForward)
  | .deleteToStart =>
    t.orSelection fun t ↦ orElse (t.eraseColumns 0 t.cursor.column) (·.joinAbove)
  | .deleteWordBack => t.orSelection (·.eraseWordBack)
  | .deleteWordForward => t.orSelection (·.eraseWordForward)
  | .undo => t.undo
  | .redo => t.redo
  | .paste => t.paste
  | .cut => t.keep.deleteSelection
  | .copy => (t.keep.deselect, false)
  | .move m extend => (t.moveCursor m extend, false)
  | .pageDown extend => (t.scrollTo (t.view.row + t.view.height) extend, false)
  | .pageUp extend => (t.scrollTo (t.view.row - t.view.height) extend, false)

end TextArea

end SuggestionReview
