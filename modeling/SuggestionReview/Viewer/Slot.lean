import SuggestionReview.LogFile
import SuggestionReview.Palette
import SuggestionReview.Screen.Border
import SuggestionReview.Screen.Paragraph

namespace SuggestionReview

structure CodeView where
  maxLines : Nat
deriving DecidableEq

namespace CodeView

def standard : CodeView := ⟨10⟩

/-- The rows that code asks for, at least one. A view of no rows has no answer. -/
def height? (v : CodeView) (code : String) : Option Nat :=
  if v.maxLines = 0 then none
  else some (min (max (toWord (Text.lines code).length) 1) v.maxLines)

def padded (columns n : Nat) : String :=
  let digits := (toString n).toList
  String.ofList (List.replicate (columns - digits.length) ' ' ++ digits)

def lines (p : Palette) (code : String) : List StyledLine :=
  let texts := Text.lines code
  let gutter := (toString (max texts.length 1)).length
  texts.zipIdx.map fun (text, i) ↦
    [⟨padded gutter (i + 1) ++ " ", p.lineNumberStyle⟩, ⟨text, p.codeStyle⟩]

end CodeView

def Canvas.drawCode (c : Canvas) (a : Area) (p : Palette) (code : String) : Canvas :=
  c.drawText a .plain (.clip 0) (CodeView.lines p code)

/-- Views of code, numbered ones among them. -/
class Viewer (ν : Type) where
  numbered : CodeView → ν
  /-- The rows that code asks for on so many columns. A view may have no answer. -/
  height? : ν → String → Nat → Option Nat
  draw : ν → Palette → String → Area → Canvas → Canvas

@[default_instance]
instance : Viewer CodeView where
  numbered := id
  height? v code _ := v.height? code
  draw _ p code a c := c.drawCode a p code

abbrev LoadResult (ν : Type := CodeView) := Except String ν

/-- Where views come from. Loads are numbered as they are asked for, and one that has no answer yet is
waited for. -/
structure ViewerSource (ν : Type := CodeView) where
  calls : Nat
  answer : Nat → Option (LoadResult ν)

namespace ViewerSource

variable {ν : Type}

def always (result : LoadResult ν) : ViewerSource ν := ⟨0, fun _ ↦ some result⟩

def builtin [Viewer ν] (maxLines : Nat) : ViewerSource ν :=
  always (.ok (Viewer.numbered (if maxLines = 0 then .standard else ⟨maxLines⟩)))

def broken (reason : String) : ViewerSource ν := always (.error reason)

def waiting (refusal : String := "loaded twice") : ViewerSource ν :=
  ⟨0, fun load ↦ if load = 0 then none else some (.error refusal)⟩

/-- Answers a load that has no answer. That reaches someone if the load is still to be asked for, or a
place is waiting for it. -/
def deliver (source : ViewerSource ν) (waiting : Bool) (result : LoadResult ν)
    (load : Nat := 0) : ViewerSource ν × Bool :=
  if (source.answer load).isNone && (source.calls ≤ load || waiting) then
    ({ source with answer := fun n ↦ if n = load then some result else source.answer n }, true)
  else (source, false)

end ViewerSource

inductive ViewerSlot (ν : Type := CodeView) where
  | idle
  | loading (load : Nat)
  | ready (view : ν)
  | failed (reason : String)

namespace ViewerSlot

variable {ν : Type}

def isWaiting (slot : ViewerSlot ν) (load : Nat := 0) : Bool :=
  match slot with
  | loading n => n == load
  | _ => false

def request (slot : ViewerSlot ν) (source : ViewerSource ν) :
    ViewerSlot ν × ViewerSource ν × List Notice :=
  match slot with
  | idle =>
    (loading source.calls, { source with calls := source.calls + 1 }, [.viewerLoading])
  | _ => (slot, source, [])

def arrived (slot : ViewerSlot ν) (source : ViewerSource ν) : Option (LoadResult ν) :=
  match slot with
  | loading n => source.answer n
  | _ => none

def failureText (reason : String) : String := "code viewer failed to load: " ++ reason

def poll (slot : ViewerSlot ν) (source : ViewerSource ν) : ViewerSlot ν × Bool × List Notice :=
  match slot.arrived source with
  | some (.ok view) => (ready view, true, [])
  | some (.error reason) =>
    (failed (failureText reason), true, [.viewerFailed (failureText reason)])
  | none => (slot, false, [])

def load (slot : ViewerSlot ν) (source : ViewerSource ν) :
    ViewerSlot ν × ViewerSource ν × List Notice :=
  let (slot, source, started) := slot.request source
  let (slot, _, ended) := slot.poll source
  (slot, source, started ++ ended)

variable [Viewer ν]

def height? (slot : ViewerSlot ν) (code : String) (width : Nat := 80) : Option Nat :=
  match slot with
  | ready view => Viewer.height? view code width
  | failed _ => addWords? (max (toWord (Text.lines code).length) 1) 1
  | _ => some 1

def draw (slot : ViewerSlot ν) (p : Palette) (code : String) (a : Area) (c : Canvas) : Canvas :=
  match slot with
  | ready view => Viewer.draw view p code a c
  | failed reason =>
    let border : Border :=
      { sides := { Sides.none with top := true }
        style := p.errorStyle
        title := .ofText ("code (viewer unavailable: " ++ reason ++ ")") }
    (c.restyle a p.codeStyle).drawBorder a border
      |>.drawText (border.inner a) p.codeStyle (.wrap false) (plainLines code)
  | _ => c.drawText a p.mutedStyle (.clip 0) (plainLines "Loading code viewer...")

end ViewerSlot

end SuggestionReview
