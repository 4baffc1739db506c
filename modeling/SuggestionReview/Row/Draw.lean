import SuggestionReview.Row.Control
import SuggestionReview.Text.Fill

namespace SuggestionReview.Row

variable {ε ν : Type}

def contentHeight? [PayloadEditor ε] [Viewer ν] (r : Row ε ν) (width : Nat) : Option Nat :=
  match r.content with
  | .editor _ => some (PayloadEditor.height r.editor)
  | .message text => some (toWord (Text.filledRows width text))
  | .options o => some (toWord (Text.filledRows width o.summary))
  | .code text => r.viewer.height? text width
  | .empty => some 0

/-- The rows of the screen that the row asks for: the header, the content, and the border. -/
def height? [PayloadEditor ε] [Viewer ν] (r : Row ε ν) (width : Nat) : Option Nat :=
  (r.contentHeight? width).bind fun content ↦
    (addWords? 1 content).bind (addWords? · (if r.bordered then 1 else 0))

theorem height?_eq_some_iff [PayloadEditor ε] [Viewer ν] {r : Row ε ν} {width height : Nat} :
    r.height? width = some height ↔ ∃ content, r.contentHeight? width = some content ∧
      1 + content + (if r.bordered then 1 else 0) = height ∧ height < 65536 := by
  rw [height?, Option.bind_eq_some_iff]
  refine exists_congr fun content ↦ and_congr_right fun _ ↦ ?_
  rw [Option.bind_eq_some_iff]
  simp only [addWords?_eq_some_iff]
  constructor
  · intro h
    obtain ⟨_, ⟨rfl, -⟩, hheight⟩ := h
    exact hheight
  · intro h
    obtain ⟨rfl, hlt⟩ := h
    exact ⟨_, ⟨rfl, Nat.lt_of_le_of_lt (Nat.le_add_right _ _) hlt⟩, rfl, hlt⟩

theorem height?_of_contentHeight? [PayloadEditor ε] [Viewer ν] {r : Row ε ν} {width content : Nat}
    (h : r.contentHeight? width = some content)
    (hlt : 1 + content + (if r.bordered then 1 else 0) < 65536) :
    r.height? width = some (1 + content + if r.bordered then 1 else 0) :=
  height?_eq_some_iff.2 ⟨content, h, rfl, hlt⟩

def applySpans (r : Row ε ν) : StyledLine :=
  match r.applyControl with
  | .visible => [⟨"[Apply] ", r.palette.applyStyle⟩]
  | .busy => [⟨"[...] ", r.palette.busyStyle⟩]
  | .hidden => []

def labelSpans (r : Row ε ν) : StyledLine :=
  match r.label with
  | some label => [⟨label ++ " ", r.palette.mutedStyle⟩]
  | none => []

/-- The line of arguments, given how many references came before. -/
def pieceSpans (r : Row ε ν) (nth : Nat) : List ReferencePiece → StyledLine
  | [] => []
  | piece :: rest =>
    if piece.isActionable then
      let chosen := r.focused && r.reference == some nth
      ⟨piece.text,
        if chosen then r.palette.focusedReferenceStyle else r.palette.referenceStyle⟩ ::
        r.pieceSpans (nth + 1) rest
    else ⟨piece.text, r.palette.normalStyle⟩ :: r.pieceSpans nth rest

def headerSpans (r : Row ε ν) : StyledLine :=
  r.applySpans ++ r.labelSpans ++ ⟨r.header.title, r.palette.titleStyle⟩ ::
    if r.header.hasColon then
      ⟨": ", r.palette.normalStyle⟩ :: r.pieceSpans 0 r.header.references.pieces
    else []

def editSpans (r : Row ε ν) : StyledLine :=
  if r.capabilities.save then
    let text :=
      match r.state.mode with
      | .view => hint ((r.bindings.hint? .toggleEdit).getD "e") "edit"
      | .editing => hint ((r.bindings.controlHint? .toggleEdit).getD "Ctrl+e") "view"
    [⟨text, r.palette.normalStyle⟩]
  else []

def dismissSpans (r : Row ε ν) : StyledLine :=
  match r.dismissControl with
  | .visible =>
    [⟨" " ++ hint ((r.bindings.hint? .dismiss).getD "x") "dismiss", r.palette.dismissStyle⟩]
  | .busy => [⟨" [...]", r.palette.busyStyle⟩]
  | .hidden => []

def controlSpans (r : Row ε ν) : StyledLine := r.editSpans ++ r.dismissSpans

def border (r : Row ε ν) : Border :=
  ⟨{ Sides.none with bottom := r.bordered }, r.palette.borderStyle, []⟩

def baseStyle (r : Row ε ν) : Style :=
  if r.focused then .bg r.palette.selectedBackground else .plain

def drawHeader (r : Row ε ν) (a : Area) (c : Canvas) : Canvas :=
  let (left, right) := a.splitRight (toWord (StyledLine.width r.controlSpans))
  (c.drawText left .plain (.clip 0) [r.headerSpans]).drawText right .plain (.clip 0)
    [r.controlSpans]

structure Drawing (ε : Type) (ν : Type := CodeView) where
  row : Row ε ν
  source : ViewerSource ν
  notices : List Notice
  canvas : Canvas

def drawContent [PayloadEditor ε] [Viewer ν]
    (r : Row ε ν) (source : ViewerSource ν) (a : Area) (c : Canvas) :
    Drawing ε ν :=
  match r.content with
  | .editor _ =>
    let (editor, c) := PayloadEditor.draw r.editor r.palette a c
    ⟨{ r with editor }, source, [], c⟩
  | .message text =>
    ⟨r, source, [], c.drawText a r.palette.normalStyle (.wrap true) (plainLines text)⟩
  | .options o =>
    ⟨r, source, [], c.drawText a r.palette.mutedStyle (.wrap true) (plainLines o.summary)⟩
  | .code text =>
    let (viewer, source, notices) := r.viewer.load source
    ⟨{ r with viewer }, source, notices, viewer.draw r.palette text a c⟩
  | .empty => ⟨r, source, [], c⟩

def draw [PayloadEditor ε] [Viewer ν]
    (r : Row ε ν) (source : ViewerSource ν) (a : Area) (c : Canvas) :
    Drawing ε ν :=
  let c := (c.restyle a r.baseStyle).drawBorder a r.border
  let (top, below) := (r.border.inner a).splitTop 1
  r.drawContent source below (r.drawHeader top c)

end SuggestionReview.Row
