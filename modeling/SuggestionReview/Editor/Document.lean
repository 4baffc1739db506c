import SuggestionReview.Palette
import SuggestionReview.Payload.Document
import SuggestionReview.TextArea.Draw
import SuggestionReview.TextArea.Keys

namespace SuggestionReview

inductive EditorEvent where
  | draft (payload : Payload)
  | save (patch : Patch)

class PayloadEditor (ε : Type) where
  seed : ε → Payload → ε
  key : ε → KeyEvent → ε × Option EditorEvent
  height : ε → Nat
  draw : ε → Palette → Area → Canvas → ε × Canvas

/-- A text area, and why its text was refused last. -/
structure DocumentEditor where
  area : TextArea
  fault : Option String
deriving DecidableEq

namespace DocumentEditor

def empty : DocumentEditor := ⟨.empty, none⟩

def text (e : DocumentEditor) : String := e.area.text

def faultText (f : Json.Failure) : String := "payload is not valid JSON: " ++ f.message

def seed (p : Payload) : DocumentEditor :=
  ⟨.ofLines ((Text.lines p.toValue.pretty).map (·.toList)), none⟩

def reading {α : Type} (e : DocumentEditor) (r : Except Json.Failure α) (event : α → EditorEvent) :
    DocumentEditor × Option EditorEvent :=
  match r with
  | .ok a => ({ e with fault := none }, some (event a))
  | .error f => ({ e with fault := some (faultText f) }, none)

def key (e : DocumentEditor) (k : KeyEvent) : DocumentEditor × Option EditorEvent :=
  if k.code = .char 's' && k.modifiers.control then e.reading (Patch.parse e.text) .save
  else
    match e.area.key k with
    | (area, true) =>
      let e := { e with area }
      e.reading (Payload.parse e.text) .draft
    | (area, false) => ({ e with area }, none)

def maxLines : Nat := 12

def height (e : DocumentEditor) : Nat :=
  min (max (toWord e.area.lines.length) 1) maxLines + 2 + if e.fault.isSome then 1 else 0

def draw (e : DocumentEditor) (p : Palette) (a : Area) (c : Canvas) : DocumentEditor × Canvas :=
  let (top, bottom) := a.splitBottom (if e.fault.isSome then 1 else 0)
  let border : Border :=
    ⟨.all, p.borderStyle, .ofText "Edit payload (Ctrl+s: save)"⟩
  let (area, c) := e.area.draw (.standard p.lineNumberStyle) border top c
  ({ e with area },
    match e.fault with
    | some fault => c.drawText bottom p.errorStyle (.clip 0) (plainLines fault)
    | none => c)

instance : PayloadEditor DocumentEditor where
  seed _ := seed
  key := key
  height := height
  draw := draw

end DocumentEditor

end SuggestionReview
