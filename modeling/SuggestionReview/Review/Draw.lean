import SuggestionReview.Review.Control
import SuggestionReview.Row.Draw

namespace SuggestionReview.Review

variable {ε ν : Type} [PayloadEditor ε] [Viewer ν]

def totalHeight? (width : Nat) (rows : List (Row ε ν)) : Option Nat :=
  rows.foldlM (fun used r ↦ (r.height? width).bind (addWords? used)) 0

/-- The rows from one position to another, both included. A position outside of the review cannot be
read. -/
def rowsBetween? (l : Review ε ν) (first last : Nat) : Option (List (Row ε ν)) :=
  if first ≤ last + 1 && last < l.rows.length then some ((l.rows.take (last + 1)).drop first)
  else none

/-- The first row to draw so that all rows up to the selected one fit, trying at most so many. The
selected row itself need not fit. -/
def offsetFrom? (l : Review ε ν) (width height : Nat) : Nat → Nat → Option Nat
  | 0, offset => some offset
  | n + 1, offset =>
    match (l.rowsBetween? offset l.selected).bind (totalHeight? width) with
    | none => none
    | some used =>
      if used ≤ height || offset = l.selected then some offset
      else l.offsetFrom? width height n (offset + 1)

def scrolled? (l : Review ε ν) (width height : Nat) : Option (Review ε ν) :=
  if l.selected < l.offset then some { l with offset := l.selected }
  else
    (l.offsetFrom? width height (l.selected - l.offset + 1) l.offset).map fun offset ↦
      { l with offset }

structure Drawing (ε : Type) (ν : Type := CodeView) where
  rows : List (Row ε ν)
  source : ViewerSource ν
  notices : List Notice
  canvas : Canvas

def drawRows? (source : ViewerSource ν) (x y width bottom : Nat) (c : Canvas) :
    List (Row ε ν) → Option (Drawing ε ν)
  | [] => some ⟨[], source, [], c⟩
  | r :: rest =>
    if bottom ≤ y then some ⟨r :: rest, source, [], c⟩
    else
      match r.height? width with
      | none => none
      | some wanted =>
        let height := min wanted (bottom - y)
        let out := r.draw source ⟨x, y, width, height⟩ c
        (drawRows? out.source x (y + height) width bottom out.canvas rest).map fun d ↦
          ⟨out.row :: d.rows, d.source, out.notices ++ d.notices, d.canvas⟩

def statusLine (l : Review ε ν) : String :=
  let status :=
    match l.status with
    | some s => s.text
    | none =>
      s!"{l.rows.length} suggested action(s), {l.features.length} feature(s)"
  if l.hints.isEmpty then status else status ++ "  " ++ "  ".intercalate l.hints

structure Frame (ε : Type) (ν : Type := CodeView) where
  review : Review ε ν
  notices : List Notice
  canvas : Canvas

def drawList? (l : Review ε ν) (a : Area) (c : Canvas) : Option (Frame ε ν) :=
  if l.rows.isEmpty then
    some ⟨l, [], c.drawText a l.palette.mutedStyle (.clip 0) (plainLines "No suggested actions")⟩
  else
    match l.scrolled? a.width a.height with
    | none => none
    | some l =>
      (drawRows? l.source a.x a.y a.width a.bottom c (l.rows.drop l.offset)).map fun d ↦
        ⟨{ l with rows := l.rows.take l.offset ++ d.rows, source := d.source }, d.notices,
          d.canvas⟩

/-- Draws the review over an area. From then on everything that is being applied counts as drawn.
There is no frame where the rows cannot be counted. -/
def draw? (l : Review ε ν) (a : Area) (c : Canvas) : Option (Frame ε ν) :=
  let (top, bottom) := a.splitBottom 1
  (l.drawList? top c).map fun f ↦
    { f with
      review := { f.review with pending := f.review.pending.map ({ · with drawn := true }) }
      canvas :=
        f.canvas.drawText bottom l.palette.mutedStyle (.clip 0)
          (plainLines f.review.statusLine) }

end SuggestionReview.Review
