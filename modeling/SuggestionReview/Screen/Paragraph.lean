import SuggestionReview.Screen.Canvas
import SuggestionReview.Screen.Line

namespace SuggestionReview

namespace Wrap

def columns (gs : List Glyph) : Nat := total (·.width) gs

/-- The glyphs that fit, given the columns used already. Wider ones than the whole line are left out.
The first columns may be skipped. -/
def clip (limit : Nat) : Nat → Nat → List Glyph → List Glyph
  | _, _, [] => []
  | used, skipped, g :: rest =>
    if limit < g.width then clip limit used skipped rest
    else if limit < used + g.width then []
    else if skipped = 0 then g :: clip limit (used + g.width) 0 rest
    else if skipped < g.width then g :: clip limit (used + g.width) 0 rest
    else clip limit used (skipped - g.width) rest

/-- How far the breaking of a line has come. Words and blanks that were read but not put on a line
wait; blanks come before the word. -/
structure State where
  /-- The lines that are finished, last first. -/
  finished : List (List Glyph)
  line : List Glyph
  lineWidth : Nat
  blanks : List Glyph
  blanksWidth : Nat
  word : List Glyph
  wordWidth : Nat
  afterWord : Bool

namespace State

def start : State := ⟨[], [], 0, [], 0, [], 0, false⟩

/-- Puts what waits onto the line. Blanks at the start of a line are dropped when trimming. -/
def commit (s : State) (trim : Bool) : State :=
  let keepBlanks := !s.line.isEmpty || !trim
  { s with
    line := s.line ++ (if keepBlanks then s.blanks else []) ++ s.word
    lineWidth := s.lineWidth + (if keepBlanks then s.blanksWidth else 0) + s.wordWidth
    blanks := []
    blanksWidth := 0
    word := []
    wordWidth := 0 }

def mustCommit (s : State) (limit : Nat) (trim : Bool) (g : Glyph) : Bool :=
  s.afterWord && g.isBlank ||
    s.line.isEmpty &&
      if trim then limit < s.wordWidth + g.width || limit < s.blanksWidth + g.width
      else limit < s.wordWidth + s.blanksWidth + g.width

def mustBreak (s : State) (limit : Nat) (g : Glyph) : Bool :=
  limit ≤ s.lineWidth || 0 < g.width && limit ≤ s.lineWidth + s.blanksWidth + s.wordWidth

def dropBlanks : Nat → Nat → List Glyph → List Glyph × Nat
  | _, width, [] => ([], width)
  | room, width, g :: rest =>
    if room < g.width then (g :: rest, width)
    else dropBlanks (room - g.width) (width - g.width) rest

def breakLine (s : State) (limit : Nat) : State :=
  let (blanks, blanksWidth) := dropBlanks (limit - s.lineWidth) s.blanksWidth s.blanks
  { s with finished := s.line :: s.finished, line := [], lineWidth := 0, blanks, blanksWidth }

def await (s : State) (g : Glyph) : State :=
  if g.isBlank then
    { s with
      blanks := s.blanks ++ [g], blanksWidth := s.blanksWidth + g.width, afterWord := false }
  else
    { s with word := s.word ++ [g], wordWidth := s.wordWidth + g.width, afterWord := true }

/-- Takes the next glyph. The blank at which a line ends is dropped. -/
def step (limit : Nat) (trim : Bool) (s : State) (g : Glyph) : State :=
  if limit < g.width then s
  else
    let s := if s.mustCommit limit trim g then s.commit trim else s
    if s.mustBreak limit g then
      let s := s.breakLine limit
      if g.isBlank && s.blanks.isEmpty then s else s.await g
    else s.await g

def finish (s : State) (trim : Bool) : List (List Glyph) :=
  let lone := s.line.isEmpty && s.word.isEmpty && !s.blanks.isEmpty
  let finished := if lone then [] :: s.finished else s.finished
  let last := (s.commit trim).line
  let all := if last.isEmpty then finished else last :: finished
  if all.isEmpty then [[]] else all.reverse

end State

def wrap (limit : Nat) (trim : Bool) (gs : List Glyph) : List (List Glyph) :=
  (gs.foldl (State.step limit trim) .start).finish trim

end Wrap

inductive Fitting where
  /-- Cut off, and so many columns skipped at the start. -/
  | clip (skipped : Nat)
  /-- Broken, without the blanks at the start of lines when trimming. -/
  | wrap (trim : Bool)
deriving DecidableEq

def Fitting.apply (f : Fitting) (columns : Nat) (gs : List Glyph) : List (List Glyph) :=
  match f with
  | clip skipped => [Wrap.clip columns 0 skipped gs]
  | wrap trim => Wrap.wrap columns trim gs

namespace Canvas

/-- Draws glyphs into a row. What has no width is not drawn. -/
def drawGlyphs (c : Canvas) (x y : Nat) : List Glyph → Canvas
  | [] => c
  | g :: rest =>
    if g.width = 0 then c.drawGlyphs x y rest
    else (c.modify x y (·.put g.symbol g.style)).drawGlyphs (x + g.width) y rest

def drawRows (c : Canvas) (x y : Nat) : List (List Glyph) → Canvas
  | [] => c
  | row :: rest => (c.drawGlyphs x y row).drawRows x (y + 1) rest

def drawText (c : Canvas) (a : Area) (style : Style) (fitting : Fitting)
    (lines : List StyledLine) : Canvas :=
  let c := c.restyle a style
  if a.isEmpty then c
  else
    let rows := lines.flatMap fun l ↦ fitting.apply a.width (StyledLine.glyphs l)
    c.drawRows a.x a.y (rows.take a.height)

end Canvas

end SuggestionReview
